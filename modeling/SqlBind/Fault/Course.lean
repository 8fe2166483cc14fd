import SqlBind.Fault.Cause

/-!
# The Course of an Error

An error object lives through several initialisations, each with arguments by place and by name,
and is stored and restored in between. Arguments that do not fit the kind of the error end its
course, and so does an attribute that cannot be stored, or else a detail that is no text.

## Main definitions

* `ErrorKind.construction`: what an error of a kind is initialised with, from the arguments.
* `ErrorState.check`: the error that an object is once it has been stored.
* `LibraryError.course`: the states of an error after several initialisations.

## Main results

* `LibraryError.restored_of_mem_course`: what is stored comes back as it was.
-/

namespace SqlBind

namespace ErrorKind

/-- The parameters of an initialisation, where arguments without a name are not collected. -/
def signature : ErrorKind → Signature
  | .general _ => ⟨[], ["detail"]⟩
  | .parameter => ⟨["message"], ["sql"]⟩
  | .nestedSequence => ⟨["key", "index"], ["sql"]⟩
  | .bindingType => ⟨["provided"], ["sql"]⟩

/-- What an error of a kind is initialised with. The general kinds collect all arguments by place,
and take their detail by name only. -/
def construction (kind : ErrorKind) (a : Arguments) : Outcome Construction :=
  let places := match kind with
    | .general _ => []
    | _ => a.places
  match kind.signature.bind { a with places } with
  | .error problem => .error (.badCall (kind.initialiser ++ ".__init__") problem)
  | .ok bound =>
    let get (name : String) : Value := (bound.lookup name).getD .null
    .ok (match kind with
      | .general k => .general k a.places ((bound.lookup "detail").getD (.str ""))
      | .parameter => .parameter (get "message") (get "sql")
      | .nestedSequence => .nestedSequence (get "key") (get "index") (get "sql")
      | .bindingType => .bindingType (get "provided") (get "sql"))

end ErrorKind

/-- The error that an object is, which must admit being stored and shown. Storing comes first. -/
def ErrorState.check (s : ErrorState) : Outcome LibraryError :=
  match Value.unstorableIn? (s.attributes.map (·.2)) with
  | some part => .error (.unstorable part)
  | none => ofBuild s.error

namespace LibraryError

/-- What an error is after each of several initialisations, and what is restored of it each time.
Its detail was `old` before, if it had one. -/
def course (kind : ErrorKind) (old : Option String) :
    List Arguments → Outcome (List (LibraryError × Option LibraryError))
  | [] => .ok []
  | a :: rest => do
    let state ← ofDisplay (initialise old (← kind.construction a))
    let e ← state.check
    return (e, e.snapshot.restore?) :: (← course kind (some e.detail) rest)

/-- What is stored comes back as it was, after every initialisation. -/
theorem restored_of_mem_course {kind : ErrorKind} {old : Option String} {calls : List Arguments}
    {states : List (LibraryError × Option LibraryError)} (h : course kind old calls = .ok states)
    {state : LibraryError × Option LibraryError} (hs : state ∈ states) :
    state.2 = some state.1 := by
  induction calls generalizing old states with
  | nil =>
    cases h
    simp at hs
  | cons a rest ih =>
    simp only [course, bind, Except.bind, pure, Except.pure] at h
    repeat' split at h
    all_goals cases h
    rename_i hr
    rcases List.mem_cons.1 hs with rfl | hs
    · exact restore?_snapshot _
    · exact ih hr hs

end LibraryError

end SqlBind
