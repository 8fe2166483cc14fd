import SqlBind.Fault.Course
import SqlBind.Text.CodePoint
import SqlBind.Value.Comparison

/-!
# Exceptions in Records

The text of an exception that a record reports is its class, and its message unless that is empty.
The message is told by the arguments: none gives an empty message, one is shown, several are shown
as a tuple. A missing key is described rather than shown. The errors of the system take a number, a
reason and up to two names of files, and show them together; the number of a general one determines
its class. The errors of syntax show their first argument only. What cannot be shown is replaced by
a note. An exception may also have words of its own.

In front of the text of an exception there may be more: the calls that it passed, and the exceptions
that it came from. An exception that was never raised has nothing there.

## Main definitions

* `Raised`: an exception.
* `Raised.className`, `Raised.message`, `Raised.text`: what a record tells of it.
* `Report`: an exception with what stands in front of its text.

## Main results

* `Raised.text_library`: the text of an error of the library has its message.
-/

namespace SqlBind.Log

open Text

/-- An exception that a record reports: an error of the library, one without a message, an exception
of another class with its arguments, or one with words of its own. -/
inductive Raised where
  | library (e : LibraryError)
  | mute (kind : ErrorKind)
  | other (className : String) (args : List Value)
  | spoken (className : String) (words : CodeText)

/-- The classes of the errors of the system by number. -/
def systemClasses : List (Int × String) :=
  [(1, "PermissionError"), (2, "FileNotFoundError"), (3, "ProcessLookupError"),
    (4, "InterruptedError"), (10, "ChildProcessError"), (11, "BlockingIOError"),
    (13, "PermissionError"), (17, "FileExistsError"), (20, "NotADirectoryError"),
    (21, "IsADirectoryError"), (32, "BrokenPipeError"), (103, "ConnectionAbortedError"),
    (104, "ConnectionResetError"), (108, "BrokenPipeError"), (110, "TimeoutError"),
    (111, "ConnectionRefusedError"), (114, "BlockingIOError"), (115, "BlockingIOError")]

/-- The class of all errors of the system. -/
def systemClass : String := "OSError"

/-- The names under which the class of all errors of the system goes. -/
def systemNames : List String := [systemClass, "IOError", "EnvironmentError"]

/-- Whether a class is one of errors of the system. -/
def isSystemClass (name : String) : Bool :=
  systemNames.contains name || name = "ConnectionError" || systemClasses.any (·.2 = name)

/-- Whether a class is one of errors of syntax. -/
def isSyntaxClass (name : String) : Bool :=
  ["SyntaxError", "IndentationError", "TabError"].contains name

/-- An error of the system as it shows itself: a number and a reason, and the names of files that
are given. -/
def systemMessage (number reason : Value) (files : List Value) : Except DisplayFailure String := do
  let base := "[Errno " ++ (← number.text) ++ "] " ++ (← reason.text)
  match files with
  | [] => return base
  | [file] => return base ++ ": " ++ (← file.describe)
  | file :: other :: _ => return base ++ ": " ++ (← file.describe) ++ " -> " ++ (← other.describe)

/-- The class of the errors of operations that would have to wait. -/
def waitingClass : String := "BlockingIOError"

/-- The names of files among the arguments that an error of a class has behind a number and a
reason; the third of these is no name. Without a first name the second does not count, and an
operation that would have to wait may have a count instead. -/
def fileNames (className : String) : List Value → List Value
  | [] | .null :: _ => []
  | file :: rest =>
    if className = waitingClass && file.integer?.isSome then []
    else
      match rest with
      | [] | [_] | _ :: .null :: _ => [file]
      | _ :: other :: _ => [file, other]

namespace Raised

/-- The exception that an initialisation of an error gives. -/
def ofConstruction (c : Construction) : Outcome Raised :=
  match LibraryError.build none c with
  | .ok e => .ok (.library e)
  | .error (.noText ..) => .ok (.mute c.kind)
  | .error (.undisplayable failure) => .error (.undisplayable failure)

/-- The module whose errors are named with it. -/
def libraryModule : String := "sqlpilot.exceptions"

/-- The class that a general error of the system has by its arguments. -/
def systemClassOf (args : List Value) : String :=
  match args with
  | number :: _ :: rest =>
    if rest.length ≤ 3 then
      ((number.integer?.bind fun n => systemClasses.lookup n)).getD systemClass
    else systemClass
  | _ => systemClass

/-- The class that an exception of a class has by its arguments. -/
def classOf (name : String) (args : List Value) : String :=
  if systemNames.contains name then systemClassOf args else name

/-- The class of an exception, with the module of the library. -/
def className : Raised → String
  | .library e => libraryModule ++ "." ++ e.kind.name
  | .mute kind => libraryModule ++ "." ++ kind.name
  | .other name args => classOf name args
  | .spoken name _ => name

/-- What stands for a message that cannot be had. -/
def noMessage : String := "<exception str() failed>"

/-- What stands for an empty message of an error of syntax. -/
def noDetail : String := "<no detail available>"

/-- The message that arguments give under the common rule. -/
def argumentMessage : List Value → Except DisplayFailure String
  | [] => .ok ""
  | [v] => v.text
  | args => (Value.seq .tuple args).describe

/-- The message that arguments give an exception of a class. -/
def otherMessage (name : String) (args : List Value) : Except DisplayFailure String :=
  if isSyntaxClass name then
    match args with
    | v :: _ => if v.isTruthy then v.text else .ok noDetail
    | [] => .ok noDetail
  else if isSystemClass name then
    match args with
    | number :: reason :: rest =>
      if rest.length ≤ 3 then systemMessage number reason (fileNames (classOf name args) rest)
      else argumentMessage args
    | args => argumentMessage args
  else
    match name, args with
    | "KeyError", [v] => v.describe
    | _, args => argumentMessage args

/-- The message of an exception. -/
def message : Raised → CodeText
  | .library e => .ofString e.message
  | .mute _ => .ofString noMessage
  | .other name args =>
    match otherMessage name args with
    | .ok text => .ofString text
    | .error _ => .ofString noMessage
  | .spoken _ words => words

/-- The text of an exception: its class, and its message if that is not empty. -/
def text (e : Raised) : CodeText :=
  if e.message.isEmpty then .ofString e.className
  else .ofString (e.className ++ ": ") ++ e.message

/-- The text of an error of the library has its message. -/
theorem text_library {e : LibraryError} (h : e.message.isEmpty = false) :
    (library e).text =
      .ofString (libraryModule ++ "." ++ e.kind.name ++ ": " ++ e.message) := by
  have hmessage : (library e).message.isEmpty = false := by
    rw [message, CodeText.isEmpty_ofString, h]
  rw [text, hmessage, if_neg Bool.false_ne_true, message, ← CodeText.ofString_append]
  rfl

end Raised

/-- An exception as a record reports it, with what stands in front of its text. -/
structure Report where
  before : CodeText
  raised : Raised

namespace Report

/-- An exception that was never raised. -/
def ofRaised (e : Raised) : Report := ⟨[], e⟩

/-- The text of a report. -/
def text (e : Report) : CodeText := e.before ++ e.raised.text

end Report

end SqlBind.Log
