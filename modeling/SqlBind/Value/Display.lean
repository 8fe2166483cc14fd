import SqlBind.Number.Layout
import SqlBind.Text.Quoted
import SqlBind.Value.Moment
import SqlBind.Value.Mapping

/-!
# Values in Messages

A value is shown in a message in one of two ways. Its *description* lets kinds be told apart:
texts stand between quotes, and a container names its kind where its brackets do not. Its *text*
is the same, except that texts, decimals, calendar values and identifiers stand as they are, and
a read-only view of a dictionary as that dictionary.

An object may refuse to be shown, and a whole number of more than 4300 digits is not written out;
then so does everything that contains it, with the complaint of the first such part from the left.

## Main definitions

* `Value.describe`: the description.
* `Value.text`: the text.
* `showInt`: the text of an integer that has not too many digits.
* `DisplayFailure.message`: the words of the complaint.
-/

namespace SqlBind

open Number Text

/-- Texts between two brackets, with commas. -/
def bracketed (opening : String) (parts : List String) (closing : String) : String :=
  opening ++ ", ".intercalate parts ++ closing

/-- A tuple of described parts; a single one is followed by a comma. -/
def tupleText : List String → String
  | [part] => "(" ++ part ++ ",)"
  | parts => bracketed "(" parts ")"

/-- A dictionary of described keys and values. -/
def entriesText (entries : List (String × String)) : String :=
  bracketed "\x7b" (entries.map fun e => e.1 ++ ": " ++ e.2) "\x7d"

/-- The text of an integer. -/
def intText (i : Int) : String := String.ofList (integerText i)

/-- How many digits a whole number may have when it is read or written as text. -/
def maxDigits : Nat := 4300

/-- The words about a whole number with too many digits: so many as a text writes, if it is read
from one. -/
def tooManyDigitsMessage (written : Option Nat) : String :=
  "Exceeds the limit (" ++ intText maxDigits ++ " digits) for integer string conversion" ++
    (match written with
      | some n => ": value has " ++ intText n ++ " digits"
      | none => "") ++
    "; use sys.set_int_max_str_digits() to increase the limit"

/-- The words about surrogates at an offset of a text that is to be written as UTF-8. -/
def surrogateMessage (offset : Nat) (found : List Nat) : String :=
  let place := match found with
    | [n] =>
      "character '\\u" ++ String.ofList (hexDigits 4 n) ++ "' in position " ++ intText offset
    | ns =>
      "characters in position " ++ intText offset ++ "-" ++ intText (offset + ns.length - 1)
  "'utf-8' codec can't encode " ++ place ++ ": surrogates not allowed"

/-- The words of the complaint about what cannot be shown. -/
def DisplayFailure.message : DisplayFailure → String
  | .wrongType | .wrongValue => "bad repr"
  | .tooManyDigits => tooManyDigitsMessage none
  | .surrogates offset found => surrogateMessage offset found

/-- Whether an integer has more digits than are written. -/
def isOverlong (i : Int) : Bool := maxDigits < decimalLength i.natAbs

/-- Minus ten to a power has too many digits if the power is as large as their limit. -/
theorem isOverlong_neg_tenTo (k : Nat) :
    isOverlong (-(tenTo k : Int)) = decide (maxDigits ≤ k) := by
  rw [isOverlong, Int.natAbs_neg, Int.natAbs_natCast, decimalLength_tenTo]
  exact decide_eq_decide.mpr Nat.lt_succ_iff

/-- The text of an integer, unless it has too many digits. -/
def showInt (i : Int) : Except DisplayFailure String :=
  if isOverlong i then .error .tooManyDigits else .ok (intText i)

theorem showInt_of_not_isOverlong {i : Int} (h : isOverlong i = false) :
    showInt i = .ok (intText i) := by
  rw [showInt, h]
  rfl

/-- The description of a complex number: its imaginary part alone where the real part is zero,
otherwise both parts in parentheses. -/
def complexText (re im : Binary64) : String :=
  let imaginary := (Layout.plainPart.text? im).getD ""
  if re = .zero false then imaginary ++ "j"
  else
    let sign := if imaginary.startsWith "-" then "" else "+"
    "(" ++ (Layout.plainPart.text? re).getD "" ++ sign ++ imaginary ++ "j)"

/-- The description of a placeholder. -/
def Placeholder.describe (p : Placeholder) : Except DisplayFailure String :=
  return "ParameterInfo(name=" ++ quote p.name ++ ", ordinal=" ++ (← showInt p.ordinal) ++
    ", placeholder_text=" ++ quote p.text ++ ", position=" ++ (← showInt p.position) ++ ")"

/-- The description of a collection of described elements. -/
def SeqKind.describe (kind : SeqKind) (parts : List String) : String :=
  match kind with
  | .list | .wrapped => bracketed "[" parts "]"
  | .tuple => tupleText parts
  | .deque => "deque(" ++ bracketed "[" parts "]" ++ ")"
  | .point => bracketed "Point(" (["x=", "y="].zipWith (· ++ ·) parts) ")"

/-- The description of a set of described members. -/
def GroupKind.describe (kind : GroupKind) (parts : List String) : String :=
  let braces := bracketed "\x7b" parts "\x7d"
  match kind, parts with
  | .set, [] => "set()"
  | .set, _ => braces
  | .frozen, [] => "frozenset()"
  | .frozen, _ => "frozenset(" ++ braces ++ ")"

/-- The description of a dictionary of described entries. -/
def DictKind.describe (kind : DictKind) (entries : List (String × String)) : String :=
  match kind, entries with
  | .plain, _ | .wrapped, _ => entriesText entries
  | .ordered, [] => "OrderedDict()"
  | .ordered, _ =>
    "OrderedDict(" ++ bracketed "[" (entries.map fun e => tupleText [e.1, e.2]) "]" ++ ")"
  | .defaulting, _ => "defaultdict(<class 'list'>, " ++ entriesText entries ++ ")"
  | .readOnly, _ => "mappingproxy(" ++ entriesText entries ++ ")"

namespace Value

mutual

/-- The description of a value. -/
def describe : Value → Except DisplayFailure String
  | .null => .ok "None"
  | .bool b => .ok (if b then "True" else "False")
  | .int i => showInt i
  | .float x => .ok x.text
  | .complex re im => .ok (complexText re im)
  | .decimal text => .ok ("Decimal(" ++ quote text ++ ")")
  | .str s => .ok (quote s)
  | .wrappedStr s => .ok (quote s)
  | .bytes .fixed data => .ok (quoteBytes data)
  | .bytes .growable data => .ok ("bytearray(" ++ quoteGrowing data ++ ")")
  | .bytes .view _ => .ok "<memory>"
  | .moment kind text => .ok (kind.describe text)
  | .uuid text => .ok ("UUID(" ++ quote text ++ ")")
  | .range start stop step =>
    return bracketed "range("
      (← ([start, stop] ++ if step = 1 then [] else [step]).mapM showInt) ")"
  | .array [] => .ok "array('q')"
  | .array items => return "array('q', " ++ bracketed "[" (← items.mapM showInt) "]" ++ ")"
  | .seq kind items => return kind.describe (← describeAll items)
  | .group kind members => return kind.describe (← describeAll members)
  | .generator _ => .ok "<generator>"
  | .dict kind entries => return kind.describe (← describeEntries entries)
  | .layers maps => return bracketed "ChainMap(" (← describeAll maps) ")"
  | .placeholder p => p.describe
  | .thing text => .ok text
  | .unshowable failure => .error failure

/-- The descriptions of a list of values. -/
def describeAll : List Value → Except DisplayFailure (List String)
  | [] => .ok []
  | v :: rest => return (← describe v) :: (← describeAll rest)

/-- The descriptions of the keys and values of a list of entries. -/
def describeEntries : List (Value × Value) → Except DisplayFailure (List (String × String))
  | [] => .ok []
  | (k, v) :: rest => return (← describe k, ← describe v) :: (← describeEntries rest)

end

/-- The text of a value. -/
def text : Value → Except DisplayFailure String
  | .str s | .wrappedStr s => .ok s
  | .decimal s | .uuid s => .ok s
  | .moment kind s => .ok (kind.plainText s)
  | .dict .readOnly entries => describe (.dict .plain entries)
  | v => v.describe

@[simp] theorem text_str {s : String} : (str s).text = .ok s := rfl

end Value

end SqlBind
