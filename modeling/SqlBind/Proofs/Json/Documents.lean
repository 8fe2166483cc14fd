import SqlBind.Proofs.Json.Scalars

/-!
# Documents, Read Back

A document that is printed and read again comes back (`Json.Lossless.ofText_print`), provided that
no number in it is lost: a double with a text of its own might come back as another one, and a whole
number whose text is too long does not come back at all. A double without a text is printed as
`null` and comes back as that; what a document comes back as is therefore the document with `null`
in the place of such doubles (`Json.settled`), and it has the same text and the same depth.

## Main definitions

* `Json.Lossless`: no number is lost.
* `Json.Steady`: moreover, the members of each object have names of their own.
* `Json.settled`: what a document comes back as.
* `Json.Reads`: a value is read back wherever it stands.

## Main results

* `Json.Lossless.reads`: every value of such a document is read back, by induction on the document.
* `Json.Lossless.ofText_print`: such a document is read back from its text.
* `Json.readValue_long`: a whole number whose text is too long is not read.
-/

namespace SqlBind.Json

open Number Text

/-- A document in which no number is lost. -/
inductive Lossless : Json → Prop
  | null : Lossless .null
  | bool {b : Bool} : Lossless (.bool b)
  | int {i : Int} : (integerText i).length ≤ maxWholeLength → Lossless (.int i)
  | float {x : Binary64} : Layout.document.text? x = none → Lossless (.float x)
  | str {s : String} : Lossless (.str s)
  | array {elements : List Json} : (∀ j ∈ elements, Lossless j) → Lossless (.array elements)
  | object {members : List (String × Json)} :
      (∀ m ∈ members, Lossless m.2) → Lossless (.object members)

/-- A document in which no number is lost and no object has two members of one name. -/
inductive Steady : Json → Prop
  | null : Steady .null
  | bool {b : Bool} : Steady (.bool b)
  | int {i : Int} : (integerText i).length ≤ maxWholeLength → Steady (.int i)
  | float {x : Binary64} : Layout.document.text? x = none → Steady (.float x)
  | str {s : String} : Steady (.str s)
  | array {elements : List Json} : (∀ j ∈ elements, Steady j) → Steady (.array elements)
  | object {members : List (String × Json)} :
      (∀ m ∈ members, Steady m.2) → (members.map (·.1)).Nodup → Steady (.object members)

theorem Steady.lossless {j : Json} (h : j.Steady) : j.Lossless := by
  induction h with
  | null => exact .null
  | bool => exact .bool
  | int hshort => exact .int hshort
  | float hx => exact .float hx
  | str => exact .str
  | array _ ih => exact .array ih
  | object _ _ ih => exact .object ih

mutual

/-- A document with `null` in the place of doubles that have no text. -/
def settled : Json → Json
  | .float x => if (Layout.document.text? x).isSome then .float x else .null
  | .array elements => .array (settledElements elements)
  | .object members => .object (settledMembers members)
  | j => j

/-- The elements of an array likewise. -/
def settledElements : List Json → List Json
  | [] => []
  | j :: rest => settled j :: settledElements rest

/-- The members of an object likewise. -/
def settledMembers : List (String × Json) → List (String × Json)
  | [] => []
  | (name, j) :: rest => (name, settled j) :: settledMembers rest

end

variable {elements : List Json} {members : List (String × Json)} {depth fuel : Nat}
  {rest : List Symbol}

/-! ### The same text, the same depth -/

theorem printElements_settled (h : ∀ j ∈ elements, j.settled.print = j.print) :
    printElements (settledElements elements) = printElements elements := by
  induction elements with
  | nil => rfl
  | cons j elements ih =>
      obtain ⟨hj, hrest⟩ := List.forall_mem_cons.mp h
      rw [settledElements, printElements, printElements, hj, ih hrest]

theorem printMembers_settled (h : ∀ m ∈ members, m.2.settled.print = m.2.print) :
    printMembers (settledMembers members) = printMembers members := by
  induction members with
  | nil => rfl
  | cons m members ih =>
      obtain ⟨hm, hrest⟩ := List.forall_mem_cons.mp h
      rw [settledMembers, printMembers, printMembers, hm, ih hrest]

/-- What a document comes back as has the same text. -/
theorem Steady.print_settled {j : Json} (h : j.Steady) : j.settled.print = j.print := by
  induction h with
  | float hx => simp [settled, print, printFloat, hx]
  | array _ ih => rw [settled, print, print, printElements_settled ih]
  | object _ _ ih => rw [settled, print, print, printMembers_settled ih]
  | _ => rfl

theorem depthOfElements_settled (h : ∀ j ∈ elements, j.settled.depth = j.depth) :
    depthOfElements (settledElements elements) = depthOfElements elements := by
  induction elements with
  | nil => rfl
  | cons j elements ih =>
      obtain ⟨hj, hrest⟩ := List.forall_mem_cons.mp h
      rw [settledElements, depthOfElements, depthOfElements, hj, ih hrest]

theorem depthOfMembers_settled (h : ∀ m ∈ members, m.2.settled.depth = m.2.depth) :
    depthOfMembers (settledMembers members) = depthOfMembers members := by
  induction members with
  | nil => rfl
  | cons m members ih =>
      obtain ⟨hm, hrest⟩ := List.forall_mem_cons.mp h
      rw [settledMembers, depthOfMembers, depthOfMembers, hm, ih hrest]

/-- It is as deep. -/
theorem Steady.depth_settled {j : Json} (h : j.Steady) : j.settled.depth = j.depth := by
  induction h with
  | float hx => simp [settled, hx, Json.depth]
  | array _ ih => rw [settled, Json.depth, Json.depth, depthOfElements_settled ih]
  | object _ _ ih => rw [settled, Json.depth, Json.depth, depthOfMembers_settled ih]
  | _ => rfl

/-! ### How a text begins -/

/-- The text of a whole number begins with a sign or a digit. -/
theorem exists_integerText_eq (i : Int) :
    ∃ c tail, integerText i = c :: tail ∧ (c = '-' || c.isDigit) = true := by
  unfold integerText
  split
  · exact ⟨_, _, rfl, rfl⟩
  · obtain ⟨c, tail, hdigits⟩ := exists_decimalDigits_eq i.natAbs
    have hc : c.isDigit = true := isDigit_of_mem_decimalDigits (hdigits ▸ List.mem_cons_self)
    exact ⟨c, tail, hdigits, by simp [hc]⟩

/-- A sign or digit is none of the other characters. -/
theorem ne_of_signOrDigit {c : Char} (hc : (c = '-' || c.isDigit) = true) (d : Char)
    (hd : (d = '-' || d.isDigit) = false) : c ≠ d := by
  rintro rfl
  rw [hc] at hd
  nomatch hd

theorem isBlankSymbol_of_signOrDigit {c : Char} (hc : (c = '-' || c.isDigit) = true) :
    isBlankSymbol (.char c) = false := by
  have hne := ne_of_signOrDigit hc
  simp [isBlankSymbol, hne ' ' rfl, hne '\n' rfl, hne '\r' rfl, hne '\t' rfl]

/-- The text of a steady document begins with a character that is no blank and closes nothing. -/
theorem Lossless.exists_print_eq {j : Json} (h : j.Lossless) :
    ∃ c tail, j.print = c :: tail ∧ isBlankSymbol (.char c) = false ∧ c ≠ ']' := by
  cases h with
  | null => exact ⟨_, _, rfl, rfl, by decide⟩
  | @bool b => cases b <;> exact ⟨_, _, rfl, rfl, by decide⟩
  | @int i _ =>
      obtain ⟨c, tail, htext, hc⟩ := exists_integerText_eq i
      exact ⟨c, tail, htext, isBlankSymbol_of_signOrDigit hc, ne_of_signOrDigit hc _ rfl⟩
  | float hx =>
      rw [print, printFloat, hx]
      exact ⟨_, _, rfl, rfl, by decide⟩
  | str => exact ⟨_, _, rfl, rfl, by decide⟩
  | array => exact ⟨_, _, rfl, rfl, by decide⟩
  | object => exact ⟨_, _, rfl, rfl, by decide⟩

/-! ### What the reader does at a first character -/

theorem skipBlanks_cons (c : Char) (h : isBlankSymbol (.char c) = false) :
    skipBlanks (.char c :: rest) = .char c :: rest := by
  unfold skipBlanks
  rw [List.dropWhile_cons, h]
  rfl

theorem readValue_string : readValue depth (fuel + 1) (.char '"' :: rest) = (do
    let (s, rest) ← readString rest
    .ok (.str s, rest)) := by
  rw [readValue.eq_def]
  rfl

theorem readValue_number {c : Char} (hc : (c = '-' || c.isDigit) = true) :
    readValue depth (fuel + 1) (.char c :: rest) = readNumber (.char c :: rest) := by
  have hne := ne_of_signOrDigit hc
  rw [readValue.eq_def]
  simp only [hc, if_neg (hne '"' rfl), if_neg (hne '[' rfl), if_neg (hne '\x7b' rfl), if_true]

theorem readValue_word {c : Char} (hc : c ∈ ['n', 't', 'f']) :
    readValue depth (fuel + 1) (.char c :: rest) = readWord (.char c :: rest) := by
  rw [readValue.eq_def]
  simp only [List.mem_cons, List.not_mem_nil, or_false] at hc
  rcases hc with rfl | rfl | rfl <;> rfl

theorem readValue_array_nil :
    readValue (depth + 1) (fuel + 1) (.char '[' :: .char ']' :: rest) = .ok (.array [], rest) := by
  rw [readValue.eq_def]
  rfl

theorem readValue_array {c : Char} (hblank : isBlankSymbol (.char c) = false) (hc : c ≠ ']') :
    readValue (depth + 1) (fuel + 1) (.char '[' :: .char c :: rest) = (do
      let (elements, rest) ← readElements depth fuel (.char c :: rest)
      .ok (.array elements, rest)) := by
  rw [readValue.eq_def]
  simp [hc, skipBlanks_cons c hblank]

theorem readValue_object_nil :
    readValue (depth + 1) (fuel + 1) (.char '\x7b' :: .char '\x7d' :: rest) =
      .ok (.object [], rest) := by
  rw [readValue.eq_def]
  rfl

theorem readValue_object :
    readValue (depth + 1) (fuel + 1) (.char '\x7b' :: .char '"' :: rest) = (do
      let (members, rest) ← readMembers depth fuel (.char '"' :: rest)
      .ok (.object members, rest)) := by
  rw [readValue.eq_def]
  simp [skipBlanks_cons '"' rfl]

/-! ### Reading -/

/-- A value is read back wherever it stands, if the reader may go as deep as it is. -/
def Reads (j : Json) : Prop :=
  ∀ {depth fuel : Nat} {rest : List Symbol}, j.depth ≤ depth → 2 * j.print.length ≤ fuel →
    Follows rest → readValue depth fuel (j.print.map .char ++ rest) = .ok (j.settled, rest)

theorem readElements_last {j : Json} {s : List Symbol}
    (h : readValue depth fuel s = .ok (j, .char ']' :: rest)) :
    readElements depth (fuel + 1) s = .ok ([j], rest) := by
  rw [readElements, h]
  rfl

theorem readElements_more {j : Json} {js : List Json} {s more : List Symbol}
    (h : readValue depth fuel s = .ok (j, .char ',' :: more))
    (hmore : readElements depth fuel (skipBlanks more) = .ok (js, rest)) :
    readElements depth (fuel + 1) s = .ok (j :: js, rest) := by
  rw [readElements, h]
  simp only [bind, Except.bind, skipBlanks_cons ',' rfl, hmore]

theorem readMembers_last {name : String} {j : Json} {s more : List Symbol}
    (hname : readString s = .ok (name, .char ':' :: more))
    (h : readValue depth fuel (skipBlanks more) = .ok (j, .char '\x7d' :: rest)) :
    readMembers depth (fuel + 1) (.char '"' :: s) = .ok ([(name, j)], rest) := by
  rw [readMembers, hname]
  simp only [bind, Except.bind, skipBlanks_cons ':' rfl, h, skipBlanks_cons '\x7d' rfl]

theorem readMembers_more {name : String} {j : Json} {js : List (String × Json)}
    {s more others : List Symbol} (hname : readString s = .ok (name, .char ':' :: more))
    (h : readValue depth fuel (skipBlanks more) = .ok (j, .char ',' :: others))
    (hothers : readMembers depth fuel (skipBlanks others) = .ok (js, rest)) :
    readMembers depth (fuel + 1) (.char '"' :: s) = .ok ((name, j) :: js, rest) := by
  rw [readMembers, hname]
  simp only [bind, Except.bind, skipBlanks_cons ':' rfl, h, skipBlanks_cons ',' rfl,
    hothers]

theorem Lossless.skipBlanks_print {j : Json} (h : j.Lossless) :
    skipBlanks (j.print.map .char ++ rest) = j.print.map .char ++ rest := by
  obtain ⟨c, tail, htext, hblank, -⟩ := h.exists_print_eq
  rw [htext]
  exact skipBlanks_cons c hblank

theorem commaJoin_cons_cons (part next : List Char) (parts : List (List Char)) :
    commaJoin (part :: next :: parts) = part ++ ',' :: commaJoin (next :: parts) := rfl

/-- Joined parts begin as the first of them does. -/
theorem exists_map_commaJoin_eq {c : Char} {part tail : List Char} (hpart : part = c :: tail)
    (parts : List (List Char)) (rest : List Symbol) :
    ∃ more, (commaJoin (part :: parts)).map Symbol.char ++ rest = .char c :: more := by
  subst hpart
  cases parts <;> exact ⟨_, rfl⟩

theorem skipBlanks_commaJoin {c : Char} {part tail : List Char} {parts : List (List Char)}
    (hpart : part = c :: tail) (hblank : isBlankSymbol (.char c) = false) :
    skipBlanks ((commaJoin (part :: parts)).map .char ++ rest) =
      (commaJoin (part :: parts)).map .char ++ rest := by
  obtain ⟨more, hmore⟩ := exists_map_commaJoin_eq hpart parts rest
  rw [hmore, skipBlanks_cons c hblank]

/-- The elements of an array are read back, up to its closing bracket. -/
theorem readElements_print (hall : ∀ j ∈ elements, Lossless j) (hreads : ∀ j ∈ elements, Reads j)
    (hne : elements ≠ []) (hdepth : depthOfElements elements ≤ depth)
    (hfuel : 2 * (commaJoin (printElements elements)).length + 1 ≤ fuel) :
    readElements depth fuel ((commaJoin (printElements elements)).map .char ++ .char ']' :: rest) =
      .ok (settledElements elements, rest) := by
  -- One step of fuel goes into each element; its comma alone pays for it.
  induction elements generalizing fuel with
  | nil => exact absurd rfl hne
  | cons j elements ih =>
      obtain ⟨fuel, rfl⟩ : ∃ less, fuel = less + 1 := ⟨fuel - 1, by omega⟩
      obtain ⟨-, hall⟩ := List.forall_mem_cons.mp hall
      obtain ⟨hread, hreads⟩ := List.forall_mem_cons.mp hreads
      rw [depthOfElements, Nat.max_le] at hdepth
      cases elements with
      | nil =>
          change 2 * j.print.length + 1 ≤ fuel + 1 at hfuel
          exact readElements_last (hread hdepth.1 (by omega) (.inr (.inl rfl)))
      | cons next elements =>
          rw [printElements, printElements, commaJoin_cons_cons] at hfuel ⊢
          rw [List.length_append, List.length_cons] at hfuel
          rw [List.map_append, List.map_cons, List.append_assoc, List.cons_append]
          refine readElements_more (hread hdepth.1 (by omega) (.inl rfl)) ?_
          obtain ⟨c, tail, htext, hblank, -⟩ := (hall next List.mem_cons_self).exists_print_eq
          have hless : 2 * (commaJoin (printElements (next :: elements))).length + 1 ≤ fuel := by
            rw [printElements]
            omega
          have hrest := ih hall hreads (List.cons_ne_nil _ _) hdepth.2 hless
          rwa [skipBlanks_commaJoin htext hblank]

/-- The text of a member: its name between quotation marks, a colon, and its value. -/
theorem map_member (name : String) (j : Json) :
    (printString name ++ ':' :: j.print).map Symbol.char ++ rest =
      .char '"' :: ((name.toList.flatMap escapeChar ++ ['"']).map .char ++
        (.char ':' :: (j.print.map .char ++ rest))) := by
  simp [printString]

/-- The members of an object are read back, up to its closing brace. -/
theorem readMembers_print (hall : ∀ m ∈ members, Lossless m.2)
    (hreads : ∀ m ∈ members, Reads m.2) (hne : members ≠ [])
    (hdepth : depthOfMembers members ≤ depth)
    (hfuel : 2 * (commaJoin (printMembers members)).length + 1 ≤ fuel) :
    readMembers depth fuel ((commaJoin (printMembers members)).map .char ++
      .char '\x7d' :: rest) = .ok (settledMembers members, rest) := by
  induction members generalizing fuel with
  | nil => exact absurd rfl hne
  | cons m members ih =>
      obtain ⟨name, j⟩ := m
      obtain ⟨fuel, rfl⟩ : ∃ less, fuel = less + 1 := ⟨fuel - 1, by omega⟩
      obtain ⟨(hj : Lossless j), hall⟩ := List.forall_mem_cons.mp hall
      obtain ⟨(hread : Reads j), hreads⟩ := List.forall_mem_cons.mp hreads
      rw [depthOfMembers, Nat.max_le] at hdepth
      have hvalue {more : List Symbol} (hless : 2 * j.print.length ≤ fuel) (hmore : Follows more) :
          readValue depth fuel (skipBlanks (j.print.map .char ++ more)) =
            .ok (j.settled, more) := by
        rw [hj.skipBlanks_print]
        exact hread hdepth.1 hless hmore
      cases members with
      | nil =>
          change 2 * (printString name ++ ':' :: j.print).length + 1 ≤ fuel + 1 at hfuel
          rw [List.length_append, List.length_cons] at hfuel
          change readMembers depth _ ((printString name ++ ':' :: j.print).map .char ++ _) = _
          rw [map_member]
          exact readMembers_last (readString_escaped name _) (hvalue (by omega) (.inr (.inr rfl)))
      | cons next members =>
          rw [printMembers, printMembers, commaJoin_cons_cons] at hfuel ⊢
          rw [List.length_append, List.length_append, List.length_cons, List.length_cons] at hfuel
          rw [List.map_append, List.map_cons, List.append_assoc, List.cons_append, map_member]
          refine readMembers_more (readString_escaped name _) (hvalue (by omega) (.inl rfl)) ?_
          have hless : 2 * (commaJoin (printMembers (next :: members))).length + 1 ≤ fuel := by
            rw [printMembers]
            omega
          have hrest := ih hall hreads (List.cons_ne_nil _ _) hdepth.2 hless
          have hpart : printString next.1 ++ ':' :: next.2.print = '"' :: _ := rfl
          rwa [skipBlanks_commaJoin hpart rfl]

theorem readWord_null : readWord (['n', 'u', 'l', 'l'].map .char ++ rest) = .ok (.null, rest) := by
  simp [readWord, dropWord?]

theorem readWord_true :
    readWord (['t', 'r', 'u', 'e'].map .char ++ rest) = .ok (.bool true, rest) := by
  simp [readWord, dropWord?]

theorem readWord_false :
    readWord (['f', 'a', 'l', 's', 'e'].map .char ++ rest) = .ok (.bool false, rest) := by
  simp [readWord, dropWord?]

theorem Lossless.exists_fuel_eq {j : Json} (h : j.Lossless) (hfuel : 2 * j.print.length ≤ fuel) :
    ∃ less, fuel = less + 1 := by
  obtain ⟨c, tail, htext, -⟩ := h.exists_print_eq
  rw [htext, List.length_cons] at hfuel
  exact ⟨fuel - 1, by omega⟩

theorem reads_array (hall : ∀ j ∈ elements, Lossless j) (hreads : ∀ j ∈ elements, Reads j) :
    Reads (.array elements) := by
  intro depth fuel rest hdepth hfuel _
  obtain ⟨fuel, rfl⟩ := (Lossless.array hall).exists_fuel_eq hfuel
  rw [Json.depth] at hdepth
  obtain ⟨depth, rfl⟩ : ∃ less, depth = less + 1 := ⟨depth - 1, by omega⟩
  rw [print, List.cons_append, List.length_cons, List.length_append, List.length_singleton] at hfuel
  rw [print, settled, List.cons_append, List.map_cons, List.map_append, List.cons_append,
    List.append_assoc]
  cases elements with
  | nil => exact readValue_array_nil
  | cons j elements =>
      have hread : readElements depth fuel ((commaJoin (printElements (j :: elements))).map .char ++
          .char ']' :: rest) = .ok (settledElements (j :: elements), rest) :=
        readElements_print hall hreads (List.cons_ne_nil _ _) (by omega) (by omega)
      obtain ⟨c, tail, htext, hblank, hc⟩ := (hall j List.mem_cons_self).exists_print_eq
      obtain ⟨more, hmore⟩ :=
        exists_map_commaJoin_eq htext (printElements elements) (.char ']' :: rest)
      rw [printElements, hmore] at hread
      rw [printElements]
      change readValue _ _ (.char '[' :: ((commaJoin _).map .char ++ .char ']' :: rest)) = _
      rw [hmore, readValue_array hblank hc, hread]
      rfl

theorem reads_object (hall : ∀ m ∈ members, Lossless m.2) (hreads : ∀ m ∈ members, Reads m.2) :
    Reads (.object members) := by
  intro depth fuel rest hdepth hfuel _
  obtain ⟨fuel, rfl⟩ := (Lossless.object hall).exists_fuel_eq hfuel
  rw [Json.depth] at hdepth
  obtain ⟨depth, rfl⟩ : ∃ less, depth = less + 1 := ⟨depth - 1, by omega⟩
  rw [print, List.cons_append, List.length_cons, List.length_append, List.length_singleton] at hfuel
  rw [print, settled, List.cons_append, List.map_cons, List.map_append, List.cons_append,
    List.append_assoc]
  cases members with
  | nil => exact readValue_object_nil
  | cons m members =>
      have hread : readMembers depth fuel ((commaJoin (printMembers (m :: members))).map .char ++
          .char '\x7d' :: rest) = .ok (settledMembers (m :: members), rest) :=
        readMembers_print hall hreads (List.cons_ne_nil _ _) (by omega) (by omega)
      have hpart : printString m.1 ++ ':' :: m.2.print = '"' :: _ := rfl
      obtain ⟨more, hmore⟩ :=
        exists_map_commaJoin_eq hpart (printMembers members) (.char '\x7d' :: rest)
      rw [printMembers, hmore] at hread
      rw [printMembers]
      change readValue _ _ (.char '\x7b' :: ((commaJoin _).map .char ++ .char '\x7d' :: rest)) = _
      rw [hmore, readValue_object, hread]
      rfl

/-- **Every value of a document in which no number is lost is read back.** -/
theorem Lossless.reads {j : Json} (h : j.Lossless) : j.Reads := by
  induction h with
  | null =>
      intro depth fuel rest _ hfuel _
      obtain ⟨fuel, rfl⟩ := Lossless.null.exists_fuel_eq hfuel
      exact (readValue_word (by decide)).trans readWord_null
  | @bool b =>
      intro depth fuel rest _ hfuel _
      obtain ⟨fuel, rfl⟩ := Lossless.bool.exists_fuel_eq hfuel
      cases b with
      | true => exact (readValue_word (by decide)).trans readWord_true
      | false => exact (readValue_word (by decide)).trans readWord_false
  | @int i hshort =>
      intro depth fuel rest _ hfuel hrest
      obtain ⟨fuel, rfl⟩ := (Lossless.int hshort).exists_fuel_eq hfuel
      obtain ⟨c, tail, htext, hc⟩ := exists_integerText_eq i
      have hnumber := readNumber_integerText i hrest
      rw [if_pos hshort, htext] at hnumber
      rw [print, htext]
      exact (readValue_number hc).trans hnumber
  | @float x hx =>
      intro depth fuel rest _ hfuel _
      obtain ⟨fuel, rfl⟩ := (Lossless.float hx).exists_fuel_eq hfuel
      have hnull : (Json.float x).print = ['n', 'u', 'l', 'l'] := by
        rw [print, printFloat, hx]
        rfl
      rw [hnull, settled, hx]
      exact (readValue_word (by decide)).trans readWord_null
  | @str s =>
      intro depth fuel rest _ hfuel _
      obtain ⟨fuel, rfl⟩ := Lossless.str.exists_fuel_eq hfuel
      change readValue _ _
        (.char '"' :: ((s.toList.flatMap escapeChar ++ ['"']).map .char ++ rest)) = _
      rw [readValue_string, readString_escaped]
      rfl
  | array hall ih => exact reads_array hall ih
  | object hall ih => exact reads_object hall ih

/-- **A document in which no number is lost is read back from its text**, unless it is too deep. -/
theorem Lossless.ofText_print {j : Json} (h : j.Lossless) (hdepth : j.depth ≤ depth) :
    ofText depth (String.ofList j.print) = .ok j.settled := by
  have hread : readValue depth (2 * j.print.length + 1) (j.print.map .char ++ []) =
      .ok (j.settled, []) := h.reads hdepth (Nat.le_succ _) trivial
  have hskip : skipBlanks (j.print.map .char ++ []) = j.print.map .char ++ [] := h.skipBlanks_print
  rw [List.append_nil] at hread hskip
  unfold ofText readSymbols symbolsOfText
  rw [String.toList_ofList, List.length_map, hskip, hread]
  rfl

theorem Steady.ofText_print {j : Json} (h : j.Steady) (hdepth : j.depth ≤ depth) :
    ofText depth (String.ofList j.print) = .ok j.settled :=
  h.lossless.ofText_print hdepth

/-! ### Numbers that are too long -/

/-- A whole number whose text is too long is not read, wherever it stands. -/
theorem readValue_long {i : Int} (h : maxWholeLength < (integerText i).length)
    (hrest : Follows rest) :
    readValue depth (fuel + 1) (skipBlanks ((integerText i).map .char ++ rest)) =
      .error .malformed := by
  obtain ⟨c, tail, htext, hc⟩ := exists_integerText_eq i
  have hnumber := readNumber_integerText i hrest
  rw [if_neg (Nat.not_le.mpr h), htext, List.map_cons, List.cons_append] at hnumber
  rw [htext, List.map_cons, List.cons_append, skipBlanks_cons c (isBlankSymbol_of_signOrDigit hc),
    readValue_number hc, hnumber]

/-- An object whose first member cannot be read cannot be read. -/
theorem readMembers_error {name : String} {e : ReadFailure} {s more : List Symbol}
    (hname : readString s = .ok (name, .char ':' :: more))
    (h : readValue depth fuel (skipBlanks more) = .error e) :
    readMembers depth (fuel + 1) (.char '"' :: s) = .error e := by
  rw [readMembers, hname]
  simp only [bind, Except.bind, skipBlanks_cons ':' rfl, h]

/-- A value in a list of joined parts is followed as values are. -/
theorem exists_follows_commaJoin (part : List Char) (parts : List (List Char)) :
    ∃ rest, (commaJoin (part :: parts) ++ ['\x7d']).map Symbol.char = part.map .char ++ rest ∧
      Follows rest := by
  cases parts with
  | nil => exact ⟨[.char '\x7d'], List.map_append, .inr (.inr rfl)⟩
  | cons next parts =>
      refine ⟨.char ',' :: (commaJoin (next :: parts) ++ ['\x7d']).map .char, ?_, .inl rfl⟩
      rw [commaJoin_cons_cons, List.append_assoc, List.map_append]
      rfl

/-- An object whose first member is a whole number with too long a text is not read. -/
theorem ofText_object_long {name : String} {i : Int} {members : List (String × Json)}
    (h : maxWholeLength < (integerText i).length) :
    ofText (depth + 1) (String.ofList (Json.object ((name, .int i) :: members)).print) =
      .error .malformed := by
  obtain ⟨rest, hprint, hrest⟩ :=
    exists_follows_commaJoin (printString name ++ ':' :: integerText i) (printMembers members)
  have hsymbols : (Json.object ((name, .int i) :: members)).print.map Symbol.char =
      .char '\x7b' :: .char '"' :: ((name.toList.flatMap escapeChar ++ ['"']).map .char ++
        (.char ':' :: ((integerText i).map .char ++ rest))) := by
    have hmember : (printString name ++ ':' :: integerText i).map Symbol.char ++ rest = _ :=
      map_member name (.int i)
    rw [hmember] at hprint
    exact congrArg (Symbol.char '\x7b' :: ·) hprint
  unfold ofText readSymbols symbolsOfText
  rw [String.toList_ofList, hsymbols, skipBlanks_cons '\x7b' rfl]
  change (readValue (depth + 1) _ _ >>= _) = _
  rw [readValue_object, List.length_cons, List.length_cons, Nat.mul_add, Nat.mul_add,
    readMembers_error (readString_escaped name _) (readValue_long h hrest)]
  rfl

end SqlBind.Json
