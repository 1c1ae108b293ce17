import SurfaceGuard.Json.Writer
import SurfaceGuard.Proofs.Json.Members
import SurfaceGuard.Proofs.Json.Number
import SurfaceGuard.Proofs.Text.Quoted

/-!
# JSON, written and read back

Reading the text of a JSON value gives the value (`read?_write`), provided that writing
lost nothing: every number is finite and not a zero with a sign, and no object has a name
twice.  The induction is on that condition, for any text that follows the value and any
fuel that covers its length; the text that follows must not go on a number.
-/

namespace SurfaceGuard

namespace Json

open Text Quoted

/-- Writing the value loses nothing. -/
inductive Lossless : Json → Prop
  | null : Lossless .null
  | boolean (b : Bool) : Lossless (.boolean b)
  | number {negative : Bool} {k : Fin Number.limit} (h : (negative && k.val != 0) = negative) :
      Lossless (.number (.finite negative k))
  | string (s : Text) : Lossless (.string s)
  | array {items : List Json} (h : ∀ j ∈ items, Lossless j) : Lossless (.array items)
  | object {members : List (Text × Json)} (hd : (Members.names members).Nodup)
      (h : ∀ m ∈ members, Lossless m.2) : Lossless (.object members)

/-! ## The first unit of a value -/

/-- May the unit stand at the start of a value? -/
def startsValue (u : CodeUnit) : Bool :=
  isDigit u || u == 0x2D || u == quote || u == 0x5B || u == 0x7B || u == 0x74 || u == 0x66
    || u == 0x6E

theorem ne_of_startsValue {u v : CodeUnit} (hu : startsValue u = true)
    (hv : startsValue v = false) : u ≠ v := by
  rintro rfl
  rw [hu] at hv
  cases hv

theorem isBlank_of_startsValue {u : CodeUnit} (hu : startsValue u = true) : isBlank u = false := by
  have h1 := ne_of_startsValue hu (by decide : startsValue 0x20 = false)
  have h2 := ne_of_startsValue hu (by decide : startsValue 0x09 = false)
  have h3 := ne_of_startsValue hu (by decide : startsValue 0x0A = false)
  have h4 := ne_of_startsValue hu (by decide : startsValue 0x0D = false)
  simp [isBlank, h1, h2, h3, h4]

theorem skipBlanks_of_startsValue {u : CodeUnit} (hu : startsValue u = true) (t : Text) :
    skipBlanks (u :: t) = u :: t := by
  rw [skipBlanks, List.dropWhile_cons, isBlank_of_startsValue hu, if_neg Bool.false_ne_true]

theorem word_true : ofString "true" = [0x74, 0x72, 0x75, 0x65] := by decide

theorem word_false : ofString "false" = [0x66, 0x61, 0x6C, 0x73, 0x65] := by decide

theorem word_null : ofString "null" = [0x6E, 0x75, 0x6C, 0x6C] := by decide

/-- The text of a value starts with a unit that no other token starts with. -/
theorem write_eq_cons {j : Json} (hj : j.Lossless) :
    ∃ u t, write j = u :: t ∧ startsValue u = true := by
  cases hj with
  | null => exact ⟨0x6E, _, word_null, by decide⟩
  | boolean b =>
    cases b with
    | true => exact ⟨0x74, _, word_true, by decide⟩
    | false => exact ⟨0x66, _, word_false, by decide⟩
  | number h =>
    rename_i negative k
    obtain ⟨u, t, hut, hu⟩ := toText_eq_cons negative k
    refine ⟨u, t, by rw [write, hut], ?_⟩
    rcases hu with hu | rfl
    · simp [startsValue, hu]
    · decide
  | string s => exact ⟨quote, escapeAfter none s ++ [quote], by rw [write, escape]; rfl, by decide⟩
  | array h => exact ⟨0x5B, _, by rw [write], by decide⟩
  | object hd h => exact ⟨0x7B, _, by rw [write], by decide⟩

theorem length_write_pos {j : Json} (hj : j.Lossless) : 0 < (write j).length := by
  obtain ⟨u, t, hut, -⟩ := write_eq_cons hj
  rw [hut, List.length_cons]
  omega

/-! ## Scalars -/

theorem readWord_append (word rest : Text) : readWord word (word ++ rest) = some rest := by
  rw [readWord, if_pos (List.isPrefixOf_iff_prefix.2 (List.prefix_append word rest)),
    List.drop_left]

/-- A value is read by its first unit, if no blank stands before it. -/
theorem readValue_cons {u : CodeUnit} (hu : startsValue u = true) (fuel : Nat) (t : Text) :
    readValue (fuel + 1) (u :: t) =
      if u == 0x7B then
        match skipBlanks t with
        | 0x7D :: rest => some (object [], rest)
        | _ => (readMembers fuel t).map fun (pairs, rest) =>
            (object (Members.ofPairs pairs), rest)
      else if u == 0x5B then
        match skipBlanks t with
        | 0x5D :: rest => some (array [], rest)
        | _ => (readItems fuel t).map fun (items, rest) => (array items, rest)
      else if u == quote then (readString t).map fun (s, rest) => (string s, rest)
      else if u == 0x74 then (readWord "true" (u :: t)).map fun rest => (boolean true, rest)
      else if u == 0x66 then (readWord "false" (u :: t)).map fun rest => (boolean false, rest)
      else if u == 0x6E then (readWord "null" (u :: t)).map fun rest => (null, rest)
      else (readNumber (u :: t)).map fun (n, rest) => (number n, rest) := by
  have hs := skipBlanks_of_startsValue hu t
  rw [readValue]
  split
  · next h =>
    rw [hs] at h
    cases h
  · next v rest h =>
    rw [hs] at h
    cases h
    rfl

theorem readValue_null (fuel : Nat) (rest : Text) :
    readValue (fuel + 1) (write .null ++ rest) = some (.null, rest) := by
  have hword := readWord_append (ofString "null") rest
  rw [write, word_null, List.cons_append] at *
  rw [readValue_cons (by decide), if_neg (by decide), if_neg (by decide), if_neg (by decide),
    if_neg (by decide), if_neg (by decide), if_pos (by decide), word_null, hword]
  rfl

theorem readValue_boolean (b : Bool) (fuel : Nat) (rest : Text) :
    readValue (fuel + 1) (write (.boolean b) ++ rest) = some (.boolean b, rest) := by
  cases b with
  | true =>
    have hword := readWord_append (ofString "true") rest
    rw [write, word_true, List.cons_append] at *
    rw [readValue_cons (by decide), if_neg (by decide), if_neg (by decide), if_neg (by decide),
      if_pos (by decide), word_true, hword]
    rfl
  | false =>
    have hword := readWord_append (ofString "false") rest
    rw [write, word_false, List.cons_append] at *
    rw [readValue_cons (by decide), if_neg (by decide), if_neg (by decide), if_neg (by decide),
      if_neg (by decide), if_pos (by decide), word_false, hword]
    rfl

theorem readValue_string (s : Text) (fuel : Nat) (rest : Text) :
    readValue (fuel + 1) (write (.string s) ++ rest) = some (.string s, rest) := by
  have hread := readString_escape s rest
  rw [write, escape, List.cons_append, List.cons_append, readValue_cons (by decide)]
  rw [if_neg (by decide), if_neg (by decide), if_pos (by decide), hread]
  rfl

theorem readValue_number {negative : Bool} {k : Fin Number.limit}
    (h : (negative && k.val != 0) = negative) (fuel : Nat) {rest : Text}
    (hr : endsNumber rest = true) :
    readValue (fuel + 1) (write (.number (.finite negative k)) ++ rest)
      = some (.number (.finite negative k), rest) := by
  obtain ⟨u, t, hut, hu⟩ := toText_eq_cons negative k
  have hread := readNumber_toText negative k hr
  have hs : startsValue u = true := by
    rcases hu with hu | rfl
    · simp [startsValue, hu]
    · decide
  -- a digit or a minus starts no other kind of value
  have hne : ∀ v : CodeUnit, isDigit v = false → v ≠ 0x2D → (u == v) = false := by
    intro v hv hv'
    refine beq_false_of_ne ?_
    rintro rfl
    rcases hu with hu | hu
    · rw [hu] at hv
      cases hv
    · exact hv' hu
  rw [write, hut, List.cons_append] at *
  rw [readValue_cons hs]
  simp only [hne 0x7B (by decide) (by decide), hne 0x5B (by decide) (by decide),
    hne quote (by decide) (by decide), hne 0x74 (by decide) (by decide),
    hne 0x66 (by decide) (by decide), hne 0x6E (by decide) (by decide), Bool.false_eq_true,
    if_false, hread, h, Option.map_some]

/-! ## Arrays and objects -/

/-- Enough fuel reads the value back, whatever follows it that does not go on a number. -/
def ReadsBack (j : Json) : Prop :=
  ∀ fuel rest, 2 * (write j).length ≤ fuel → endsNumber rest = true →
    readValue fuel (write j ++ rest) = some (j, rest)

theorem writeItems_cons {item : Json} {items : List Json} (h : items ≠ []) :
    writeItems (item :: items) = write item ++ 0x2C :: writeItems items := by
  rw [writeItems]
  exact h

theorem writeMembers_cons {name : Text} {value : Json} {members : List (Text × Json)}
    (h : members ≠ []) :
    writeMembers ((name, value) :: members)
      = escape name ++ 0x3A :: write value ++ 0x2C :: writeMembers members := by
  rw [writeMembers]
  exact h

theorem readItems_writeItems {items : List Json} (hne : items ≠ [])
    (ih : ∀ j ∈ items, j.ReadsBack) (fuel : Nat) (rest : Text)
    (hf : 2 * (writeItems items).length + 1 ≤ fuel) :
    readItems fuel (writeItems items ++ rest) = some (items, rest) := by
  induction items generalizing fuel with
  | nil => exact absurd rfl hne
  | cons j items ihs =>
    obtain ⟨f, rfl⟩ : ∃ f, fuel = f + 1 := ⟨fuel - 1, by omega⟩
    have hj := ih j List.mem_cons_self
    cases items with
    | nil =>
      rw [writeItems, List.length_append, List.length_singleton] at hf
      rw [writeItems, List.append_assoc, readItems, hj f _ (by omega) (by rfl)]
      rfl
    | cons k items =>
      rw [writeItems_cons (List.cons_ne_nil k items), List.length_append, List.length_cons] at hf
      rw [writeItems_cons (List.cons_ne_nil k items), List.append_assoc, List.cons_append,
        readItems,
        hj f _ (by omega) (by rfl)]
      have hrec := ihs (List.cons_ne_nil k items)
        (fun x hx => ih x (List.mem_cons_of_mem _ hx)) f (by omega)
      show (readItems f _).map _ = _
      rw [hrec]
      rfl

/-- After the name and the colon the value is read, and then a comma or the brace. -/
theorem readMembers_escape (name t : Text) (fuel : Nat) :
    readMembers (fuel + 1) (escape name ++ 0x3A :: t) =
      match readValue fuel t with
      | none => none
      | some (value, rest) =>
        match skipBlanks rest with
        | 0x2C :: rest =>
          (readMembers fuel rest).map fun (members, rest) => ((name, value) :: members, rest)
        | 0x7D :: rest => some ([(name, value)], rest)
        | _ => none := by
  have hname := readString_escape name (0x3A :: t)
  have hquote : skipBlanks (escape name ++ 0x3A :: t)
      = 0x22 :: (escapeAfter none name ++ [quote] ++ 0x3A :: t) := by
    exact skipBlanks_of_startsValue (by decide) _
  rw [readMembers, hquote]
  simp only [hname]
  rfl

theorem readMembers_writeMembers {members : List (Text × Json)} (hne : members ≠ [])
    (ih : ∀ m ∈ members, m.2.ReadsBack) (fuel : Nat) (rest : Text)
    (hf : 2 * (writeMembers members).length + 1 ≤ fuel) :
    readMembers fuel (writeMembers members ++ rest) = some (members, rest) := by
  induction members generalizing fuel with
  | nil => exact absurd rfl hne
  | cons m members ihs =>
    obtain ⟨name, value⟩ := m
    obtain ⟨f, rfl⟩ : ∃ f, fuel = f + 1 := ⟨fuel - 1, by omega⟩
    have hvalue : value.ReadsBack := ih (name, value) List.mem_cons_self
    cases members with
    | nil =>
      rw [writeMembers, List.length_append, List.length_append, List.length_cons,
        List.length_singleton] at hf
      have hread := hvalue f (0x7D :: rest) (by omega) (by rfl)
      rw [writeMembers, List.append_assoc, List.append_assoc, List.cons_append, readMembers_escape,
        List.singleton_append, hread]
      rfl
    | cons n members =>
      rw [writeMembers_cons (List.cons_ne_nil n members), List.length_append, List.length_append,
        List.length_cons, List.length_cons] at hf
      have hread := hvalue f (0x2C :: (writeMembers (n :: members) ++ rest)) (by omega) (by rfl)
      have hrec := ihs (List.cons_ne_nil n members) (fun x hx => ih x (List.mem_cons_of_mem _ hx)) f
        (by omega)
      rw [writeMembers_cons (List.cons_ne_nil n members), List.append_assoc, List.append_assoc,
        List.cons_append, List.cons_append, readMembers_escape, hread]
      show (readMembers f _).map _ = _
      rw [hrec]
      rfl

/-! ## The round trip -/

theorem skipBlanks_writeItems {items : List Json} (hne : items ≠ [])
    (hl : ∀ j ∈ items, j.Lossless) (rest : Text) :
    ∃ u t, skipBlanks (writeItems items ++ rest) = u :: t ∧ startsValue u = true := by
  cases items with
  | nil => exact absurd rfl hne
  | cons j items =>
    obtain ⟨u, t, hut, hu⟩ := write_eq_cons (hl j List.mem_cons_self)
    cases items with
    | nil =>
      refine ⟨u, t ++ [0x5D] ++ rest, ?_, hu⟩
      rw [writeItems, hut, List.cons_append, List.cons_append, skipBlanks_of_startsValue hu]
    | cons k items =>
      refine ⟨u, t ++ 0x2C :: writeItems (k :: items) ++ rest, ?_, hu⟩
      rw [writeItems_cons (List.cons_ne_nil k items), hut, List.cons_append, List.cons_append,
        skipBlanks_of_startsValue hu]

theorem skipBlanks_writeMembers {members : List (Text × Json)} (hne : members ≠ [])
    (rest : Text) : ∃ t, skipBlanks (writeMembers members ++ rest) = quote :: t := by
  cases members with
  | nil => exact absurd rfl hne
  | cons m members =>
    obtain ⟨name, value⟩ := m
    cases members with
    | nil => exact ⟨_, skipBlanks_of_startsValue (by decide) _⟩
    | cons n members =>
      rw [writeMembers_cons (List.cons_ne_nil n members)]
      exact ⟨_, skipBlanks_of_startsValue (by decide) _⟩

theorem readValue_array {items : List Json} (hl : ∀ j ∈ items, j.Lossless)
    (ih : ∀ j ∈ items, j.ReadsBack) {fuel : Nat} (rest : Text)
    (hf : 2 * (write (.array items)).length ≤ fuel + 1) :
    readValue (fuel + 1) (write (.array items) ++ rest) = some (.array items, rest) := by
  rw [write, List.cons_append, readValue_cons (by decide), if_neg (by decide), if_pos (by decide)]
  cases items with
  | nil => rfl
  | cons k items =>
    rw [write, List.length_cons] at hf
    have hread := readItems_writeItems (List.cons_ne_nil k items) ih fuel rest (by omega)
    obtain ⟨u, t, hut, hu⟩ := skipBlanks_writeItems (List.cons_ne_nil k items) hl rest
    rw [hut, hread]
    -- no value starts with the bracket that closes an empty array
    split
    · next heq =>
      cases heq
      exact absurd hu (by decide)
    · rfl

theorem readValue_object {members : List (Text × Json)} (hd : (Members.names members).Nodup)
    (ih : ∀ m ∈ members, m.2.ReadsBack) {fuel : Nat} (rest : Text)
    (hf : 2 * (write (.object members)).length ≤ fuel + 1) :
    readValue (fuel + 1) (write (.object members) ++ rest) = some (.object members, rest) := by
  rw [write, List.cons_append, readValue_cons (by decide), if_pos (by decide)]
  cases members with
  | nil => rfl
  | cons m members =>
    rw [write, List.length_cons] at hf
    have hread := readMembers_writeMembers (List.cons_ne_nil m members) ih fuel rest (by omega)
    obtain ⟨t, hqt⟩ := skipBlanks_writeMembers (List.cons_ne_nil m members) rest
    rw [hqt, hread]
    show some (object (Members.ofPairs _), _) = _
    rw [Members.ofPairs_of_nodup hd]

/-- Some fuel is needed at any rate, since no text of a value is empty. -/
theorem readsBack_of_succ {j : Json} (hj : j.Lossless)
    (h : ∀ fuel rest, 2 * (write j).length ≤ fuel + 1 → endsNumber rest = true →
      readValue (fuel + 1) (write j ++ rest) = some (j, rest)) : j.ReadsBack := by
  intro fuel rest hf hr
  have hpos := length_write_pos hj
  cases fuel with
  | zero => omega
  | succ fuel => exact h fuel rest hf hr

/-- A value whose writing lost nothing is read back, whatever follows it. -/
theorem readsBack {j : Json} (hj : j.Lossless) : j.ReadsBack := by
  induction hj with
  | null => exact readsBack_of_succ .null fun fuel rest _ _ => readValue_null fuel rest
  | boolean b =>
    exact readsBack_of_succ (.boolean b) fun fuel rest _ _ => readValue_boolean b fuel rest
  | number h => exact readsBack_of_succ (.number h) fun fuel rest _ hr => readValue_number h fuel hr
  | string s =>
    exact readsBack_of_succ (.string s) fun fuel rest _ _ => readValue_string s fuel rest
  | array h ih =>
    exact readsBack_of_succ (.array h) fun fuel rest hf _ => readValue_array h ih rest hf
  | object hd h ih =>
    exact readsBack_of_succ (.object hd h) fun fuel rest hf _ => readValue_object hd ih rest hf

/-- Blanks may follow the text of a value. -/
theorem read?_write_append {j : Json} (hj : j.Lossless) {blanks : Text}
    (hb : skipBlanks blanks = []) (hr : endsNumber blanks = true) :
    read? (write j ++ blanks) = some j := by
  have hread := readsBack hj (2 * (write j ++ blanks).length + 2) blanks
    (by rw [List.length_append]; omega) hr
  rw [read?, hread]
  simp only [hb, List.isEmpty_nil, if_true]

/-- Reading the text of a value gives the value, if writing it lost nothing. -/
theorem read?_write {j : Json} (hj : j.Lossless) : read? (write j) = some j := by
  have h := read?_write_append hj (@rfl _ (skipBlanks [])) (@rfl _ (endsNumber []))
  rwa [List.append_nil] at h

/-! ## Well-formedness -/

theorem isWellFormed_digits {ds : Text} (hd : ∀ u ∈ ds, isDigit u = true) :
    isWellFormed ds = true := by
  refine isWellFormed_of_no_surrogate fun u hu => ?_
  have h := hd u hu
  rw [isDigit, Bool.and_eq_true, decide_eq_true_eq, decide_eq_true_eq, UInt16.le_iff_toNat_le,
    UInt16.le_iff_toNat_le] at h
  by_contra hc
  have hs := isSurrogate_iff.1 (Bool.not_eq_false _ ▸ hc)
  have h9 : (0x39 : CodeUnit).toNat = 0x39 := rfl
  omega

theorem isWellFormed_exponentText (e : Int) : isWellFormed (Number.exponentText e) = true := by
  have hd := isWellFormed_digits (ofNat_digits e.natAbs)
  rw [Number.exponentText]
  refine isWellFormed_cons (by decide) ?_
  split
  · exact isWellFormed_cons (by decide) hd
  · exact isWellFormed_cons (by decide) hd

theorem isWellFormed_layout (d : Number.Decimal) : isWellFormed (Number.layout d) = true := by
  have hdig := ofNat_digits d.digits
  rw [Number.layout]
  generalize Text.ofNat d.digits = ds at hdig
  split_ifs with h1 h2 h3
  · exact isWellFormed_digits (append_digits hdig (zeros_digits _))
  · refine isWellFormed_append (isWellFormed_digits fun u hu => ?_)
      (isWellFormed_cons (by decide) (isWellFormed_digits fun u hu => ?_))
    · exact hdig u (List.mem_of_mem_take hu)
    · exact hdig u (List.mem_of_mem_drop hu)
  · refine isWellFormed_cons (by decide) (isWellFormed_cons (by decide) ?_)
    exact isWellFormed_digits (append_digits (zeros_digits _) hdig)
  · cases ds with
    | nil => rfl
    | cons lead more =>
      have hlead : isWellFormed [lead] = true := isWellFormed_digits fun u hu =>
        hdig u (List.mem_singleton.1 hu ▸ List.mem_cons_self)
      have hmore := isWellFormed_digits fun u hu => hdig u (List.mem_cons_of_mem lead hu)
      have hexp := isWellFormed_exponentText (d.exponent + (lead :: more).length - 1)
      cases more with
      | nil => exact isWellFormed_append hlead hexp
      | cons m more =>
        have hpoint := isWellFormed_append hlead
          (@isWellFormed_cons 0x2E _ (by decide) hmore)
        exact isWellFormed_append hpoint hexp

theorem isWellFormed_toText (negative : Bool) (k : Fin Number.limit) :
    isWellFormed (Number.toText (.finite negative k)) = true := by
  have hl := isWellFormed_layout (Number.decimalOf k)
  rw [Number.toText]
  split_ifs with hk hn
  · rfl
  · exact isWellFormed_cons (by decide) hl
  · exact hl

theorem isWellFormed_writeItems {items : List Json}
    (h : ∀ j ∈ items, isWellFormed (write j) = true) : isWellFormed (writeItems items) = true := by
  induction items with
  | nil => rfl
  | cons j items ih =>
    have hj := h j List.mem_cons_self
    have hrec := ih fun x hx => h x (List.mem_cons_of_mem j hx)
    cases items with
    | nil => exact isWellFormed_append hj (by decide)
    | cons k items =>
      rw [writeItems_cons (List.cons_ne_nil k items)]
      exact isWellFormed_append hj (isWellFormed_cons (by decide) hrec)

theorem isWellFormed_writeMembers {members : List (Text × Json)}
    (h : ∀ m ∈ members, isWellFormed (write m.2) = true) :
    isWellFormed (writeMembers members) = true := by
  induction members with
  | nil => rfl
  | cons m members ih =>
    obtain ⟨name, value⟩ := m
    have hname := isWellFormed_escape name
    have hvalue : isWellFormed (write value) = true := h (name, value) List.mem_cons_self
    have hrec := ih fun x hx => h x (List.mem_cons_of_mem _ hx)
    cases members with
    | nil =>
      rw [writeMembers]
      exact isWellFormed_append (isWellFormed_append hname
        (isWellFormed_cons (by decide) hvalue)) (by decide)
    | cons n members =>
      rw [writeMembers_cons (List.cons_ne_nil n members)]
      exact isWellFormed_append (isWellFormed_append hname
        (isWellFormed_cons (by decide) hvalue)) (isWellFormed_cons (by decide) hrec)

/-- The text of a value has no surrogate without its other half. -/
theorem isWellFormed_write {j : Json} (hj : j.Lossless) : isWellFormed (write j) = true := by
  induction hj with
  | null => rw [write, word_null]; rfl
  | boolean b =>
    cases b with
    | true => rw [write, word_true]; rfl
    | false => rw [write, word_false]; rfl
  | number h => exact isWellFormed_toText _ _
  | string s => exact isWellFormed_escape s
  | array h ih => exact isWellFormed_cons (by decide) (isWellFormed_writeItems ih)
  | object hd h ih => exact isWellFormed_cons (by decide) (isWellFormed_writeMembers ih)

end Json

end SurfaceGuard
