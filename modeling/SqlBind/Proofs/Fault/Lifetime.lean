import SqlBind.Fault.Course

/-!
# The Lifetime of an Error

An error object is made by one initialisation and may go through more of them, and between any two
of them it may be stored and restored. What it is in the end depends on the initialisations alone,
and not on where it was stored (`LibraryError.lifetime_outcome`).

One initialisation is the same for all kinds of errors (`LibraryError.build_eq_ok`): it is given a
detail, which for the errors about parameters is the message with its statement, and the texts of
the arguments that count as given, which only the general kinds have. A detail that is not empty is
what the initialisation supplies; without one, the first of the texts is. What it does not supply is
left as it was, so the detail of an object is the last one that was supplied to it. Everything else
is left by the last initialisation alone.

The messages about nested sequences and about bindings are never empty. So these two kinds of errors
have no memory: an object that is initialised again is like a new one.

## Main definitions

* `Construction.supplied?`: the detail that an initialisation supplies.
* `Construction.leftOver`: the texts of its remaining arguments.
* `Episode` and `LibraryError.lifetime`: initialisations and storing, and what an object is after
  them.
* `LibraryError.LeftBy`: what initialisations leave behind.

## Main results

* `LibraryError.build_eq_ok`: what one initialisation leaves behind.
* `LibraryError.stored_eq`: an object that is stored and restored is as it was.
* `LibraryError.lifetime_outcome`: what an object is in the end.
* `LibraryError.lifetime_of_course`: a course is a lifetime.
-/

namespace SqlBind

open LibraryError

namespace Value

/-- A text that is not empty. -/
def givenText? : Value → Option String
  | .str s => if s.isEmpty then none else some s
  | _ => none

theorem givenText?_of_isTruthy {s : String} (h : (str s).isTruthy = true) :
    (str s).givenText? = some s := by
  rw [isTruthy, Bool.not_eq_true'] at h
  rw [givenText?, h]
  rfl

theorem givenText?_eq_none {v : Value} (h : ¬v.isTruthy = true) : v.givenText? = none := by
  cases v with
  | str s =>
      rw [isTruthy, Bool.not_eq_true', Bool.not_eq_false] at h
      rw [givenText?, if_pos h]
  | _ => rfl

end Value

namespace Construction

/-! ### What an initialisation says -/

/-- What an initialisation makes the error be about. -/
def subject : Construction → Subject
  | .general kind .. => .general kind
  | .parameter _ sql => .parameter sql
  | .nestedSequence key index sql => .nestedSequence sql key index
  | .bindingType _ sql => .bindingType sql

/-- The detail that an initialisation is given, unless it cannot be shown: the argument of that
name, or the message with its statement. -/
def detail? : Construction → Option Value
  | .general _ _ detail => some detail
  | .parameter message sql => (withStatement message sql).toOption
  | .nestedSequence key index sql => do
    let message ← (nestedSequenceMessage key index).toOption
    (withStatement (.str message) sql).toOption
  | .bindingType provided sql =>
    (withStatement (.str (bindingTypeMessage provided)) sql).toOption

/-- The texts of the arguments by place that count as given. -/
def texts : Construction → List String
  | .general _ args _ => (givenTexts args).toOption.getD []
  | _ => []

/-- **The detail that an initialisation supplies**: the one it is given, unless that is empty, or
else the text of the first argument that counts as given. For the errors about parameters the
detail is the message with its statement, and empty only if both are. -/
def supplied? (c : Construction) : Option String :=
  (c.detail?.bind Value.givenText?).or c.texts.head?

/-- **The texts of its remaining arguments**: the first has become the detail if none was given. -/
def leftOver (c : Construction) : List String :=
  if (c.detail?.bind Value.givenText?).isSome then c.texts else c.texts.tail

/-- Everything that an initialisation makes the error be about can be stored. -/
def Storable (c : Construction) : Prop :=
  Value.unstorableIn? (c.subject.attributes.map (·.2)) = none

theorem kind_subject (c : Construction) : c.subject.kind = c.kind := by
  cases c <;> rfl

end Construction

namespace ErrorKind

/-- Arguments for an error of a kind make an error of this kind. -/
theorem kind_of_construction {kind : ErrorKind} {a : Arguments} {c : Construction}
    (h : kind.construction a = .ok c) : c.kind = kind := by
  cases kind
  all_goals
    simp only [construction] at h
    split at h
    · nomatch h
    · obtain rfl := Except.ok.inj h
      rfl

end ErrorKind

namespace LibraryError

variable {kind : ErrorKind} {old : Option String} {c : Construction} {cs : List Construction}
  {e e' : LibraryError} {a first : Arguments}

/-! ### One initialisation -/

/-- Every initialisation settles the detail it is given with the texts of its arguments. -/
theorem initialise_eq_ok {state : ErrorState} (h : initialise old c = .ok state) :
    ∃ detail, c.detail? = some detail ∧
      state = settled c.subject (settleDetail old detail c.texts) := by
  cases c with
  | general kind args detail =>
      obtain ⟨texts, htexts, rfl⟩ := exists_of_map_eq_ok h
      refine ⟨detail, rfl, ?_⟩
      rw [Construction.texts, htexts]
      rfl
  | parameter message sql =>
      obtain ⟨detail, hdetail, rfl⟩ := exists_of_map_eq_ok h
      refine ⟨detail, ?_, rfl⟩
      rw [Construction.detail?, hdetail]
      rfl
  | nestedSequence key index sql =>
      obtain ⟨message, hmessage, h⟩ := exists_of_bind_eq_ok h
      obtain ⟨detail, hdetail, rfl⟩ := exists_of_map_eq_ok h
      refine ⟨detail, ?_, rfl⟩
      rw [Construction.detail?, hmessage]
      exact congrArg Except.toOption hdetail
  | bindingType provided sql =>
      obtain ⟨detail, hdetail, rfl⟩ := exists_of_map_eq_ok h
      refine ⟨detail, ?_, rfl⟩
      rw [Construction.detail?, hdetail]
      rfl

/-- A detail that is settled as a text is the given one, the first of the texts, or the old one. -/
theorem settleDetail_eq {detail : Value} {texts args : List String} {settledText : String}
    (h : settleDetail old detail texts = (.str settledText, args)) :
    settledText = ((detail.givenText?).or texts.head?).getD (old.getD "") ∧
      args = if detail.givenText?.isSome then texts else texts.tail := by
  unfold settleDetail at h
  split at h
  case isTrue htruthy =>
    obtain ⟨rfl, rfl⟩ := Prod.mk.inj h
    simp [Value.givenText?_of_isTruthy htruthy]
  case isFalse hfalsy =>
    rw [Value.givenText?_eq_none hfalsy]
    split at h
    case h_1 =>
      obtain ⟨hfirst, rfl⟩ := Prod.mk.inj h
      obtain rfl := Value.str.inj hfirst
      exact ⟨rfl, rfl⟩
    case h_2 =>
      obtain ⟨hold, rfl⟩ := Prod.mk.inj h
      obtain rfl := Value.str.inj hold
      exact ⟨rfl, rfl⟩
    case h_3 =>
      obtain ⟨rfl, rfl⟩ := Prod.mk.inj h
      rw [Value.isTruthy, Bool.not_eq_true', Bool.not_eq_false] at hfalsy
      exact ⟨String.isEmpty_iff.mp hfalsy, rfl⟩

/-- **What one initialisation leaves behind**: its own subject and remaining arguments, and the
detail it supplies, or else the old one. -/
theorem build_eq_ok (h : build old c = .ok e) :
    e = ⟨c.subject, c.supplied?.getD (old.getD ""), c.leftOver⟩ := by
  unfold build at h
  split at h
  case h_2 => nomatch h
  case h_1 state hstate =>
    obtain ⟨detail, hdetail, rfl⟩ := initialise_eq_ok hstate
    unfold ErrorState.error at h
    split at h
    case h_2 => nomatch h
    case h_1 text htext =>
      obtain rfl := Except.ok.inj h
      obtain ⟨hdetailText, hargs⟩ := settleDetail_eq (Prod.ext htext rfl)
      rw [Construction.supplied?, Construction.leftOver, hdetail, Option.bind_some, ← hdetailText,
        ← hargs]
      rfl

/-! ### Errors without a memory -/

theorem isEmpty_append {text : String} (h : text.isEmpty = false) (more : String) :
    (text ++ more).isEmpty = false := by
  rw [String.isEmpty_eq_false_iff] at h ⊢
  intro happend
  exact h (String.append_eq_empty_iff.mp happend).1

/-- A message that is not empty is not empty with its statement either. -/
theorem isTruthy_withStatement {message : String} {sql detail : Value}
    (hmessage : message.isEmpty = false) (h : withStatement (.str message) sql = .ok detail) :
    detail.isTruthy = true := by
  unfold withStatement at h
  split at h
  · obtain ⟨shown, hshown, h⟩ := exists_of_bind_eq_ok h
    obtain ⟨statement, -, rfl⟩ := exists_of_map_eq_ok h
    obtain rfl : message = shown := Except.ok.inj hshown
    have hboth := isEmpty_append (isEmpty_append hmessage "\nSQL: ") statement
    rw [Value.isTruthy, hboth]
    rfl
  · obtain rfl := Except.ok.inj h
    simp [Value.isTruthy, hmessage]

/-- A detail that counts as given is settled, whatever was there before. -/
theorem settleDetail_of_isTruthy {detail : Value} {texts : List String}
    (h : detail.isTruthy = true) : settleDetail old detail texts = (detail, texts) :=
  if_pos h

/-- An error with a message that is not empty does not ask for the old detail. -/
theorem bind_withStatement_eq {message : String} {sql : Value} {subject : Subject}
    (hmessage : message.isEmpty = false) :
    (do return settled subject (settleDetail old (← withStatement (.str message) sql) [])) =
      (do return settled subject (settleDetail none (← withStatement (.str message) sql) [])) := by
  cases hdetail : withStatement (.str message) sql with
  | error failure => rfl
  | ok detail =>
      have htruthy : detail.isTruthy = true := isTruthy_withStatement hmessage hdetail
      change Except.ok (settled subject (settleDetail old detail [])) =
        Except.ok (settled subject (settleDetail none detail []))
      rw [settleDetail_of_isTruthy htruthy, settleDetail_of_isTruthy htruthy]

/-- **Errors about nested sequences and about bindings have no memory**: their messages are never
empty. -/
theorem initialise_eq_none (h : c.kind = .nestedSequence ∨ c.kind = .bindingType) :
    initialise old c = initialise none c := by
  cases c with
  | general => rcases h with h | h <;> nomatch h
  | parameter => rcases h with h | h <;> nomatch h
  | nestedSequence key index sql =>
      rw [initialise, initialise]
      cases hmessage : nestedSequenceMessage key index with
      | error failure => rfl
      | ok message =>
          obtain ⟨name, -, h⟩ := exists_of_bind_eq_ok hmessage
          obtain ⟨place, -, rfl⟩ := exists_of_map_eq_ok h
          have hfront : "Parameter ".isEmpty = false := rfl
          exact bind_withStatement_eq
            (isEmpty_append (isEmpty_append (isEmpty_append (isEmpty_append hfront _) _) _) _)
  | bindingType provided sql =>
      have hfront : "Named parameters must be a mapping, got ".isEmpty = false := rfl
      rw [initialise, initialise]
      exact bind_withStatement_eq (isEmpty_append hfront provided.typeName)

end LibraryError

/-! ### Episodes -/

/-- What may happen to an object: it is initialised, or it is stored and restored. -/
inductive Episode where
  | call (a : Arguments)
  | storage

/-- The initialisations among some episodes. -/
def Episode.calls : List Episode → List Arguments
  | [] => []
  | .call a :: rest => a :: calls rest
  | .storage :: rest => calls rest

namespace LibraryError

variable {kind : ErrorKind} {old : Option String} {c : Construction} {cs : List Construction}
  {e e' : LibraryError} {a first : Arguments} {episodes : List Episode}

/-- An object of a kind after an initialisation. Its detail was `old` before, if it had one. -/
def called (kind : ErrorKind) (old : Option String) (a : Arguments) : Outcome LibraryError := do
  ofBuild (build old (← kind.construction a))

/-- What is restored of an object that was stored, unless a part of it cannot be stored. -/
def stored (e : LibraryError) : Outcome (Option LibraryError) :=
  match Value.unstorableIn? (e.snapshot.state.map (·.2)) with
  | some part => .error (.unstorable part)
  | none => .ok e.snapshot.restore?

/-- An object after an episode, if it can be put together again. -/
def undergo (e : LibraryError) : Episode → Outcome (Option LibraryError)
  | .call a => do return some (← called e.kind (some e.detail) a)
  | .storage => e.stored

/-- An object after several episodes. -/
def live (e : LibraryError) : List Episode → Outcome (Option LibraryError)
  | [] => .ok (some e)
  | episode :: rest => do
    match ← e.undergo episode with
    | some e => e.live rest
    | none => return none

/-- **The lifetime of an object**: it is made by a first initialisation and undergoes the episodes
that follow. -/
def lifetime (kind : ErrorKind) (first : Arguments) (episodes : List Episode) :
    Outcome (Option LibraryError) := do
  (← called kind none first).live episodes

/-- **What initialisations leave behind**: the kind, the last detail that was supplied, and all else
from the last of them. -/
structure LeftBy (kind : ErrorKind) (cs : List Construction) (e : LibraryError) : Prop where
  kind_eq : e.kind = kind
  detail_eq : e.detail = (cs.filterMap Construction.supplied?).getLast?.getD ""
  last : ∃ c, cs.getLast? = some c ∧ e.subject = c.subject ∧ e.args = c.leftOver ∧
    (kind = .nestedSequence ∨ kind = .bindingType → build none c = .ok e)

/-! ### One episode -/

theorem stored_of_parts (h : Value.unstorableIn? (e.snapshot.state.map (·.2)) = none) :
    e.stored = .ok (some e) := by
  unfold stored
  rw [h, restore?_snapshot]

/-- **An object that is stored and restored is as it was**, if what its last initialisation made it
be about can be stored. -/
theorem stored_eq (hsubject : e.subject = c.subject) (hc : c.Storable) :
    e.stored = .ok (some e) := by
  rw [Construction.Storable, ← hsubject] at hc
  exact stored_of_parts hc

theorem live_storage (h : e.stored = .ok (some e)) :
    e.live (.storage :: episodes) = e.live episodes := by
  rw [live, undergo, h]
  rfl

theorem live_call (h : called e.kind (some e.detail) a = .ok e') :
    e.live (.call a :: episodes) = e'.live episodes := by
  rw [live, undergo, h]
  rfl

theorem exists_of_called (h : called kind old a = .ok e) :
    ∃ c, kind.construction a = .ok c ∧ build old c = .ok e := by
  obtain ⟨c, hc, hbuild⟩ := exists_of_bind_eq_ok h
  exact ⟨c, hc, eq_ok_of_ofBuild hbuild⟩

theorem kind_of_called (h : called kind old a = .ok e) : e.kind = kind := by
  obtain ⟨c, hc, hbuild⟩ := exists_of_called h
  rw [build_eq_ok hbuild]
  exact c.kind_subject.trans (ErrorKind.kind_of_construction hc)

/-! ### Many episodes -/

/-- **One initialisation after others**: the object had the last detail that they supplied. -/
theorem exists_leftBy_of_called
    (hold : old.getD "" = (cs.filterMap Construction.supplied?).getLast?.getD "")
    (hcall : called kind old a = .ok e) :
    ∃ c, kind.construction a = .ok c ∧ e.subject = c.subject ∧ LeftBy kind (cs ++ [c]) e := by
  obtain ⟨c, hc, hbuild⟩ := exists_of_called hcall
  have hleft := build_eq_ok hbuild
  refine ⟨c, hc, by rw [hleft], ⟨kind_of_called hcall, ?_, c, List.getLast?_concat, ?_, ?_, ?_⟩⟩
  · rw [hleft, List.filterMap_append]
    cases hsupplied : c.supplied? with
    | none =>
        rw [List.filterMap_cons_none hsupplied, List.filterMap_nil, List.append_nil]
        exact hold
    | some detail =>
        rw [List.filterMap_cons_some hsupplied, List.filterMap_nil, List.getLast?_concat]
        rfl
  · rw [hleft]
  · rw [hleft]
  · intro hforgets
    rw [← ErrorKind.kind_of_construction hc] at hforgets
    rwa [build, ← initialise_eq_none hforgets]

/-- **A whole lifetime**: what initialisations left behind, and later episodes add to. Where the
object is stored among the later initialisations does not matter. The induction is on the episodes;
storing leaves the object as it is, and an initialisation is one more behind those before it. -/
theorem LeftBy.live (h : LeftBy kind cs e) (hnow : e.stored = .ok (some e))
    (hstorable : ∀ a ∈ Episode.calls episodes, ∀ c, kind.construction a = .ok c → c.Storable)
    (hreturns : e.live ((Episode.calls episodes).map .call) = .ok (some e')) :
    e.live episodes = .ok (some e') ∧ e'.stored = .ok (some e') ∧
      ∃ more, (Episode.calls episodes).mapM kind.construction = .ok more ∧
        LeftBy kind (cs ++ more) e' := by
  induction episodes generalizing e cs with
  | nil =>
      obtain rfl : e = e' := Option.some.inj (Except.ok.inj hreturns)
      exact ⟨rfl, hnow, [], rfl, by rwa [List.append_nil]⟩
  | cons episode rest ih =>
      cases episode with
      | storage =>
          obtain ⟨hlive, hend⟩ := ih h hnow hstorable hreturns
          exact ⟨(live_storage hnow).trans hlive, hend⟩
      | call a =>
          obtain ⟨found, hfound, hrest⟩ := exists_of_bind_eq_ok hreturns
          obtain ⟨next, hcall, hnext⟩ := exists_of_bind_eq_ok hfound
          obtain rfl : some next = found := Except.ok.inj hnext
          have hkind : called kind (some e.detail) a = .ok next := h.kind_eq ▸ hcall
          have hold : (some e.detail).getD "" = _ := h.detail_eq
          obtain ⟨c, hc, hsubject, hleft⟩ := exists_leftBy_of_called hold hkind
          obtain ⟨hstorableFirst, hstorableRest⟩ := List.forall_mem_cons.mp hstorable
          have hagain : next.stored = .ok (some next) :=
            stored_eq hsubject (hstorableFirst c hc)
          obtain ⟨hlive, hend, more, hmore, hall⟩ := ih hleft hagain hstorableRest hrest
          refine ⟨(live_call hcall).trans hlive, hend, c :: more, ?_, ?_⟩
          · rw [Episode.calls, List.mapM_cons, hc, hmore]
            rfl
          · rwa [List.append_cons]

/-- **What an object is in the end.** Let the initialisations of a lifetime return, were they all
that happens, and let what they make the error be about be such that it can be stored. Then the
whole lifetime returns the same object, wherever it is stored and restored on the way, and it can be
stored once more and come back as it is. The object has its kind. Its detail is the last one that an
initialisation supplied, and empty if none did; its subject and its remaining arguments are those of
the last initialisation; and an error about a nested sequence or about bindings is what this makes
of a new object. -/
theorem lifetime_outcome
    (hreturns : lifetime kind first ((Episode.calls episodes).map .call) = .ok (some e))
    (hstorable : ∀ a ∈ first :: Episode.calls episodes, ∀ c, kind.construction a = .ok c →
      c.Storable) :
    lifetime kind first episodes = .ok (some e) ∧ e.stored = .ok (some e) ∧
      ∃ cs last, (first :: Episode.calls episodes).mapM kind.construction = .ok cs ∧
        cs.getLast? = some last ∧ e.kind = kind ∧
        e.detail = (cs.filterMap Construction.supplied?).getLast?.getD "" ∧
        e.subject = last.subject ∧ e.args = last.leftOver ∧
        (kind = .nestedSequence ∨ kind = .bindingType → build none last = .ok e) := by
  obtain ⟨made, hmade, hlive⟩ := exists_of_bind_eq_ok hreturns
  obtain ⟨hstorableFirst, hstorableRest⟩ := List.forall_mem_cons.mp hstorable
  have hnothing : (none : Option String).getD "" =
      (([] : List Construction).filterMap Construction.supplied?).getLast?.getD "" := rfl
  obtain ⟨c, hc, hsubject, hleft⟩ := exists_leftBy_of_called hnothing hmade
  obtain ⟨hend, hagain, more, hmore, hall⟩ :=
    hleft.live (stored_eq hsubject (hstorableFirst c hc)) hstorableRest hlive
  obtain ⟨last, hlast, hsubject, hargs, hforgets⟩ := hall.last
  refine ⟨?_, hagain, c :: more, last, ?_, hlast, hall.kind_eq, hall.detail_eq, hsubject, hargs,
    hforgets⟩
  · rw [lifetime, hmade]
    exact hend
  · rw [List.mapM_cons, hc, hmore]
    rfl

/-- A message with a statement, then an empty message without one: the object keeps the detail of
the first, but not its statement, and is stored in between. -/
theorem lifetime_outcome_kept :
    ∃ e, lifetime .parameter ⟨[.str "bad"], [("sql", .str "SELECT 1")]⟩
        [.storage, .call ⟨[.str ""], []⟩, .storage] = .ok (some e) ∧
      e.stored = .ok (some e) ∧ e.detail = "bad\nSQL: SELECT 1" ∧
      e.subject = .parameter .null ∧ e.args = [] := by
  have hfirst : ErrorKind.parameter.construction ⟨[.str "bad"], [("sql", .str "SELECT 1")]⟩ =
      .ok (.parameter (.str "bad") (.str "SELECT 1")) := rfl
  have hsecond : ErrorKind.parameter.construction ⟨[.str ""], []⟩ =
      .ok (.parameter (.str "") .null) := rfl
  have hreturns : lifetime .parameter ⟨[.str "bad"], [("sql", .str "SELECT 1")]⟩
      ((Episode.calls [.storage, .call ⟨[.str ""], []⟩, .storage]).map .call) =
        .ok (some ⟨.parameter .null, "bad\nSQL: SELECT 1", []⟩) := rfl
  obtain ⟨hend, hagain, -⟩ := lifetime_outcome hreturns (by
    simp only [Episode.calls, List.mem_cons, List.not_mem_nil, or_false]
    rintro a (rfl | rfl) c hc
    · rw [hfirst] at hc
      obtain rfl := Except.ok.inj hc
      rfl
    · rw [hsecond] at hc
      obtain rfl := Except.ok.inj hc
      rfl)
  exact ⟨_, hend, hagain, rfl, rfl, rfl⟩

/-! ### The course of an error -/

/-- The episodes of a course: the object is stored after every initialisation. -/
def storedAfterEach (calls : List Arguments) : List Episode :=
  calls.flatMap fun a => [.call a, .storage]

/-- What passes the check after an initialisation is what the object is, and it can be stored. -/
theorem called_of_check {state : ErrorState} (hc : kind.construction a = .ok c)
    (hstate : ofDisplay (initialise old c) = .ok state) (hcheck : state.check = .ok e) :
    called kind old a = .ok e ∧ e.stored = .ok (some e) := by
  have hinit : initialise old c = .ok state := eq_ok_of_ofDisplay hstate
  unfold ErrorState.check at hcheck
  split at hcheck
  case h_1 => cases hcheck
  case h_2 hparts =>
    have hcalled : called kind old a = .ok e := by
      rw [called, hc]
      change ofBuild (build old c) = .ok e
      rwa [build, hinit]
    refine ⟨hcalled, ?_⟩
    have herror : state.error = .ok e := eq_ok_of_ofBuild hcheck
    unfold ErrorState.error at herror
    split at herror
    case h_2 => cases herror
    case h_1 detail hdetail =>
      obtain rfl := Except.ok.inj herror
      rw [ErrorState.attributes, hdetail] at hparts
      exact stored_of_parts hparts

/-- The first step of a course. -/
theorem exists_called_of_course {calls : List Arguments}
    {states : List (LibraryError × Option LibraryError)}
    (h : course kind old (a :: calls) = .ok states) :
    ∃ e more, called kind old a = .ok e ∧ e.stored = .ok (some e) ∧
      course kind (some e.detail) calls = .ok more ∧ states = (e, some e) :: more := by
  rw [course] at h
  obtain ⟨c, hc, h⟩ := exists_of_bind_eq_ok h
  obtain ⟨state, hstate, h⟩ := exists_of_bind_eq_ok h
  obtain ⟨e, hcheck, h⟩ := exists_of_bind_eq_ok h
  obtain ⟨more, hmore, rfl⟩ := exists_of_map_eq_ok h
  obtain ⟨hcalled, hstored⟩ := called_of_check hc hstate hcheck
  refine ⟨e, more, hcalled, hstored, hmore, ?_⟩
  rw [restore?_snapshot]

/-- An object lives through a course as the course says. -/
theorem live_of_course {calls : List Arguments}
    {states : List (LibraryError × Option LibraryError)} (hkind : e.kind = kind)
    (h : course kind (some e.detail) calls = .ok states) :
    e.live (storedAfterEach calls) = .ok (some ((states.map (·.1)).getLast?.getD e)) := by
  induction calls generalizing e states with
  | nil =>
      obtain rfl := Except.ok.inj h
      rfl
  | cons a calls ih =>
      obtain ⟨next, more, hcalled, hstored, hmore, rfl⟩ := exists_called_of_course h
      have hnow : called e.kind (some e.detail) a = .ok next := hkind ▸ hcalled
      have hlive : e.live (storedAfterEach (a :: calls)) = next.live (storedAfterEach calls) :=
        (live_call hnow).trans (live_storage hstored)
      rw [hlive, ih (kind_of_called hcalled) hmore, List.map_cons, List.getLast?_cons]
      rfl

/-- **A course is a lifetime** in which the object is stored after every initialisation. -/
theorem lifetime_of_course {calls : List Arguments}
    {states : List (LibraryError × Option LibraryError)}
    (h : course kind none (first :: calls) = .ok states) :
    ∃ e, (states.map (·.1)).getLast? = some e ∧
      lifetime kind first (.storage :: storedAfterEach calls) = .ok (some e) := by
  obtain ⟨made, more, hcalled, hstored, hmore, rfl⟩ := exists_called_of_course h
  refine ⟨_, List.getLast?_cons, ?_⟩
  rw [lifetime, hcalled]
  exact (live_storage hstored).trans (live_of_course (kind_of_called hcalled) hmore)

end LibraryError

end SqlBind
