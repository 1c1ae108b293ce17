import SurfaceGuard.Proofs.Value.Canonical
import SurfaceGuard.Report.Data

/-!
# The place that a refusal names

Every value below a value stands at a place, a list of steps from the outside in
(`Value.At`).  Places are ordered depth first: items from the front, members by ascending
names (`Step.Before`), and a value before everything below it.

A value without a JSON form is refused, and so is every value that has one below it.  The
refusal names the first place of that kind and the type of what stands there
(`Value.refusal_names_first_place`).  The proof takes a value apart into its `Parts`, in
the order in which they are visited: what a list and what an object come to is the first
refusal of a part (`Together`), so that both are one case of the induction.
-/

namespace SurfaceGuard

/-! ## Places in depth-first order -/

/-- The order in which the steps out of one value are taken. -/
inductive Step.Before : Step → Step → Prop
  | item {i j : Nat} (h : i < j) : Before (.item i) (.item j)
  | member {a b : Text} (h : Text.le a b = true) (hne : a ≠ b) : Before (.member a) (.member b)

/-- The first place comes before the second one: the first step that differs decides, and a value
comes before what is below it. -/
def Precedes (p q : List Step) : Prop := List.Lex Step.Before p q

/-- A place as it is written: the index of an item in brackets, the name of a member after a
point. -/
def pathText : List Step → Text
  | [] => []
  | .item index :: place => "[" ++ Text.ofNat index ++ "]" ++ pathText place
  | .member name :: place => "." ++ name ++ pathText place

theorem Step.Before.asymm {s t : Step} (h : Before s t) : ¬Before t s := by
  intro h'
  cases h with
  | item h =>
    cases h' with
    | item h' => omega
  | member h hne =>
    cases h' with
    | member h' _ => exact hne (Text.le_antisymm h h')

theorem Precedes.asymm {p q : List Step} (h : Precedes p q) : ¬Precedes q p := by
  intro h'
  induction h with
  | nil => cases h'
  | cons _ ih =>
    cases h' with
    | cons h' => exact ih h'
    | rel h' => exact h'.asymm h'
  | rel h =>
    cases h' with
    | cons _ => exact h.asymm h
    | rel h' => exact h.asymm h'

theorem Unsupported.placeText_eq (u : Unsupported) :
    u.placeText = ("$" : Text) ++ pathText u.place := by
  obtain ⟨place, typeName⟩ := u
  change (0x24 : CodeUnit) :: place.flatMap stepText = 0x24 :: pathText place
  congr 1
  induction place with
  | nil => rfl
  | cons step place ih =>
    rw [List.flatMap_cons, ih]
    cases step with
    | item index => rfl
    | member name => rfl

namespace Value

/-! ## What stands at a place -/

/-- The second value stands at a place in the first one. -/
inductive At : Value → List Step → Value → Prop
  | here (v : Value) : At v [] v
  | item {items : List Value} {i : Nat} {v w : Value} {place : List Step}
      (hi : items[i]? = some v) (h : At v place w) : At (.list items) (.item i :: place) w
  | member (ancestry : Ancestry) {members : List (Text × Value)} {name : Text} {v w : Value}
      {place : List Step} (hm : (name, v) ∈ members) (h : At v place w) :
      At (.object ancestry members) (.member name :: place) w

/-- The type name of a value that has no JSON form by itself, whatever is below it: a number that is
not finite is named by its text, another value that is no object by its kind, and an object by its
class.  One whose class is unknown or has no name is just an object. -/
def foreignType? : Value → Option Text
  | .number .nan => some "NaN"
  | .number (.infinite false) => some "Infinity"
  | .number (.infinite true) => some "-Infinity"
  | .foreign .undefined => some "undefined"
  | .foreign (.bigint _) => some "bigint"
  | .foreign .function => some "function"
  | .foreign .symbol => some "symbol"
  | .foreign .hole => some "hole"
  | .foreign .map => some "Map"
  | .foreign .set => some "Set"
  | .foreign .date => some "Date"
  | .foreign .regexp => some "RegExp"
  | .foreign .buffer => some "Buffer"
  | .foreign .bytes => some "Uint8Array"
  | .foreign .error => some "Error"
  | .foreign .boxedString => some "String"
  | .foreign .boxedNumber => some "Number"
  | .foreign (.instance []) => some "object"
  | .foreign (.instance (u :: name)) => some (u :: name)
  | .foreign .orphan => some "object"
  | .null => none
  | .boolean _ => none
  | .number (.finite ..) => none
  | .string _ => none
  | .list _ => none
  | .object .. => none

/-- The name that a refusal gives a foreign value is the name of its type. -/
theorem foreignType?_foreign (f : Foreign) : foreignType? (.foreign f) = some f.typeName := by
  by_cases hclass : ∃ className, f = .instance className
  · obtain ⟨className, rfl⟩ := hclass
    cases className <;> rfl
  · cases f <;> first | rfl | exact absurd ⟨_, rfl⟩ hclass

/-- No object of the value has a name twice. -/
inductive WellFormed : Value → Prop
  | null : WellFormed .null
  | boolean (b : Bool) : WellFormed (.boolean b)
  | number (n : Number) : WellFormed (.number n)
  | string (s : Text) : WellFormed (.string s)
  | foreign (f : Foreign) : WellFormed (.foreign f)
  | list {items : List Value} (h : ∀ v ∈ items, WellFormed v) : WellFormed (.list items)
  | object (ancestry : Ancestry) {members : List (Text × Value)}
      (hd : (Members.names members).Nodup) (h : ∀ m ∈ members, WellFormed m.2) :
      WellFormed (.object ancestry members)

/-- Everything in the value has a JSON form. -/
def IsPure (v : Value) : Prop := ∀ place w, v.At place w → w.foreignType? = none

/-- The first place at which something without a JSON form stands, and the name of its type. -/
structure FirstForeign (v : Value) (place : List Step) (typeName : Text) : Prop where
  stands : ∃ w, v.At place w ∧ w.foreignType? = some typeName
  first : ∀ other w, v.At other w → w.foreignType? ≠ none → other = place ∨ Precedes place other

/-- At one place there is one value. -/
theorem At.eq {v w w' : Value} {place : List Step} (hv : v.WellFormed) (h : v.At place w)
    (h' : v.At place w') : w = w' := by
  induction h with
  | here v =>
    cases h'
    rfl
  | item hi _ ih =>
    cases h' with
    | item hi' h' =>
      obtain rfl := Option.some.inj (hi.symm.trans hi')
      cases hv with
      | list hitems => exact ih (hitems _ (List.mem_of_getElem? hi)) h'
  | member ancestry hm _ ih =>
    cases h' with
    | member _ hm' h' =>
      cases hv with
      | object _ hd hmembers =>
        have hget := (Members.get?_of_mem hd hm).symm.trans (Members.get?_of_mem hd hm')
        obtain rfl := Option.some.inj hget
        exact ih (hmembers _ hm) h'

/-- There is one first place, and one type at it. -/
theorem FirstForeign.eq {v : Value} {p q : List Step} {s t : Text} (hv : v.WellFormed)
    (h : v.FirstForeign p s) (h' : v.FirstForeign q t) : p = q ∧ s = t := by
  obtain ⟨w, hw, hs⟩ := h.stands
  obtain ⟨w', hw', ht⟩ := h'.stands
  have hpq : p = q := by
    rcases h.first q w' hw' (by simp [ht]) with heq | hlt
    · exact heq.symm
    rcases h'.first p w hw (by simp [hs]) with heq | hgt
    · exact heq
    · exact absurd hgt hlt.asymm
  subst hpq
  obtain rfl := hw.eq hv hw'
  exact ⟨rfl, Option.some.inj (hs.symm.trans ht)⟩

/-! ## Parts -/

/-- The parts of a value in the order in which they are visited, each with the step to it. -/
structure Parts (v : Value) (parts : List (Step × Value)) : Prop where
  isPlain : v.foreignType? = none
  at_iff : ∀ step place w, v.At (step :: place) w ↔ ∃ x, (step, x) ∈ parts ∧ x.At place w
  ordered : parts.Pairwise fun p q => p.1.Before q.1

/-- What the parts come to together: the first refusal, seen from one step further out. -/
inductive Together {α : Type} : List (Step × Value) → Except Unsupported α → Prop
  | nil (a : α) : Together [] (.ok a)
  | accept {p : Step × Value} {parts : List (Step × Value)} {r : Except Unsupported α}
      (hp : ∃ j, p.2.canonical = .ok j) (h : Together parts r) : Together (p :: parts) r
  | refuse {p : Step × Value} {parts : List (Step × Value)} {u : Unsupported}
      (hp : p.2.canonical = .error u) : Together (p :: parts) (.error (u.within p.1))

theorem Together.map {α β : Type} {parts : List (Step × Value)} {r : Except Unsupported α}
    (h : Together parts r) (f : α → β) : Together parts (r.map f) := by
  induction h with
  | nil a => exact .nil (f a)
  | accept hp _ ih => exact .accept hp ih
  | refuse hp => exact .refuse hp

/-- All parts are accepted, or one is refused after others that are accepted. -/
theorem Together.cases {α : Type} {parts : List (Step × Value)} {r : Except Unsupported α}
    (h : Together parts r) :
    (∃ a, r = .ok a ∧ ∀ p ∈ parts, ∃ j, p.2.canonical = .ok j)
      ∨ ∃ before p after u, parts = before ++ p :: after
        ∧ (∀ q ∈ before, ∃ j, q.2.canonical = .ok j)
        ∧ p.2.canonical = .error u ∧ r = .error (u.within p.1) := by
  induction h with
  | nil a => exact Or.inl ⟨a, rfl, List.forall_mem_nil _⟩
  | @accept p parts r hp _ ih =>
    rcases ih with ⟨a, rfl, hall⟩ | ⟨before, q, after, u, rfl, hbefore, hu, rfl⟩
    · exact Or.inl ⟨a, rfl, List.forall_mem_cons.2 ⟨hp, hall⟩⟩
    · exact Or.inr ⟨p :: before, q, after, u, rfl, List.forall_mem_cons.2 ⟨hp, hbefore⟩, hu, rfl⟩
  | @refuse p parts u hp => exact Or.inr ⟨[], p, parts, u, rfl, List.forall_mem_nil _, hp, rfl⟩

/-- The items from the given index on, as parts of a list. -/
def itemParts : Nat → List Value → List (Step × Value)
  | _, [] => []
  | index, item :: items => (.item index, item) :: itemParts (index + 1) items

theorem mem_itemParts_iff {step : Step} {x : Value} {k : Nat} {items : List Value} :
    (step, x) ∈ itemParts k items ↔ ∃ i, items[i]? = some x ∧ step = .item (k + i) := by
  induction items generalizing k with
  | nil => simp [itemParts]
  | cons item items ih =>
    rw [itemParts, List.mem_cons, ih]
    constructor
    · rintro (h | ⟨i, hi, rfl⟩)
      · cases h
        exact ⟨0, rfl, rfl⟩
      · exact ⟨i + 1, hi, by congr 1; omega⟩
    · rintro ⟨i, hi, rfl⟩
      cases i with
      | zero =>
        cases hi
        exact Or.inl rfl
      | succ i => exact Or.inr ⟨i, hi, by congr 1; omega⟩

theorem parts_list (items : List Value) : Parts (.list items) (itemParts 0 items) where
  isPlain := rfl
  at_iff step place w := by
    constructor
    · intro h
      cases h with
      | item hi h => exact ⟨_, mem_itemParts_iff.2 ⟨_, hi, by simp⟩, h⟩
    · rintro ⟨x, hx, h⟩
      obtain ⟨i, hi, rfl⟩ := mem_itemParts_iff.1 hx
      rw [Nat.zero_add]
      exact .item hi h
  ordered := by
    generalize 0 = k
    induction items generalizing k with
    | nil => exact .nil
    | cons item items ih =>
      refine .cons ?_ (ih (k + 1))
      rintro ⟨step, x⟩ hx
      obtain ⟨i, -, rfl⟩ := mem_itemParts_iff.1 hx
      exact .item (by omega)

theorem together_items (items : List Value) (k : Nat) :
    Together (itemParts k items) (canonicalItems k items) := by
  induction items generalizing k with
  | nil => exact .nil []
  | cons item items ih =>
    rw [itemParts, canonicalItems]
    cases hitem : item.canonical with
    | ok json => exact .accept ⟨json, hitem⟩ ((ih (k + 1)).map _)
    | error u => exact .refuse hitem

/-- The members of an object as its parts. -/
def memberParts (members : List (Text × Value)) : List (Step × Value) :=
  (Members.sort members).map fun m => (.member m.1, m.2)

theorem mem_memberParts_iff {step : Step} {x : Value} {members : List (Text × Value)} :
    (step, x) ∈ memberParts members ↔ ∃ name, (name, x) ∈ members ∧ step = .member name := by
  simp only [memberParts, List.mem_map, (Members.sort_perm members).mem_iff, Prod.mk.injEq]
  constructor
  · rintro ⟨⟨name, x⟩, hx, rfl, rfl⟩
    exact ⟨name, hx, rfl⟩
  · rintro ⟨name, hx, rfl⟩
    exact ⟨(name, x), hx, rfl, rfl⟩

theorem parts_object (ancestry : Ancestry) {members : List (Text × Value)}
    (hd : (Members.names members).Nodup) :
    Parts (.object ancestry members) (memberParts members) where
  isPlain := rfl
  at_iff step place w := by
    constructor
    · intro h
      cases h with
      | member _ hm h => exact ⟨_, mem_memberParts_iff.2 ⟨_, hm, rfl⟩, h⟩
    · rintro ⟨x, hx, h⟩
      obtain ⟨name, hm, rfl⟩ := mem_memberParts_iff.1 hx
      exact .member ancestry hm h
  ordered := by
    have hnames := List.pairwise_map.1 (Members.nodup_names_sort hd)
    refine List.pairwise_map.2 ((Members.sort_pairwise members).imp₂ ?_ hnames)
    exact fun m n hle hne => .member hle hne

theorem together_members (members : List (Text × Value)) :
    Together (members.map fun m => (.member m.1, m.2))
      (allMembers (members.map fun m => (m.1, canonical m.2))) := by
  induction members with
  | nil => exact .nil []
  | cons m members ih =>
    rw [List.map_cons, List.map_cons]
    cases hm : m.2.canonical with
    | ok json => exact .accept ⟨json, hm⟩ (ih.map _)
    | error u => exact .refuse hm

/-! ## The first refusal -/

/-- A value that is accepted has a JSON form throughout, and a refusal is that of the first place
without one. -/
def Judged (v : Value) : Except Unsupported Json → Prop
  | .ok _ => v.IsPure
  | .error u => v.FirstForeign u.place u.typeName

/-- What the parts come to is right if it is for each part. -/
theorem Parts.judged {v : Value} {parts : List (Step × Value)} {r : Except Unsupported Json}
    (hv : v.Parts parts) (hparts : ∀ p ∈ parts, p.2.Judged p.2.canonical)
    (hr : Together parts r) : v.Judged r := by
  have hpure : ∀ p ∈ parts, (∃ j, p.2.canonical = .ok j) → p.2.IsPure := by
    rintro p hp ⟨j, hj⟩
    have hjudged := hparts p hp
    rwa [hj] at hjudged
  rcases hr.cases with ⟨j, rfl, hall⟩ | ⟨before, p, after, u, rfl, hbefore, hu, rfl⟩
  · intro place w hw
    cases place with
    | nil =>
      cases hw
      exact hv.isPlain
    | cons step place =>
      obtain ⟨x, hx, hw⟩ := (hv.at_iff step place w).1 hw
      exact hpure _ hx (hall _ hx) place w hw
  · have hp : p ∈ before ++ p :: after := by simp
    have hfirst : p.2.FirstForeign u.place u.typeName := by
      have hjudged := hparts p hp
      rwa [hu] at hjudged
    obtain ⟨w, hw, ht⟩ := hfirst.stands
    refine ⟨⟨w, (hv.at_iff p.1 u.place w).2 ⟨p.2, hp, hw⟩, ht⟩, fun other w' hw' hforeign => ?_⟩
    cases other with
    | nil =>
      cases hw'
      exact absurd hv.isPlain hforeign
    | cons step other =>
      obtain ⟨x, hx, hw'⟩ := (hv.at_iff step other w').1 hw'
      rcases List.mem_append.1 hx with hx' | hx'
      · -- A part before the one that is refused has nothing without a JSON form.
        exact absurd (hpure _ hx (hbefore _ hx') other w' hw') hforeign
      rcases List.mem_cons.1 hx' with rfl | hafter
      · rcases hfirst.first other w' hw' hforeign with rfl | hlt
        · exact Or.inl rfl
        · exact Or.inr (.cons hlt)
      · have hordered := (List.pairwise_append.1 hv.ordered).2.1
        exact Or.inr (.rel ((List.pairwise_cons.1 hordered).1 _ hafter))

theorem judged_canonical {v : Value} (hv : v.WellFormed) : v.Judged v.canonical := by
  have hleaf : ∀ {v : Value}, (∀ step place w, ¬v.At (step :: place) w) →
      v.foreignType? = none → v.IsPure := by
    intro v hno hplain place w hw
    cases place with
    | nil =>
      cases hw
      exact hplain
    | cons step place => exact absurd hw (hno step place w)
  have hforeign : ∀ {v : Value} {t : Text}, (∀ step place w, ¬v.At (step :: place) w) →
      v.foreignType? = some t → v.FirstForeign [] t := by
    intro v t hno ht
    refine ⟨⟨v, .here v, ht⟩, fun other w hw _ => ?_⟩
    cases other with
    | nil => exact Or.inl rfl
    | cons step place => exact absurd hw (hno step place w)
  induction hv with
  | null => exact hleaf nofun rfl
  | boolean b => exact hleaf nofun rfl
  | number n =>
    cases n with
    | finite negative k => exact hleaf nofun rfl
    | infinite negative => cases negative <;> exact hforeign nofun rfl
    | nan => exact hforeign nofun rfl
  | string s => exact hleaf nofun rfl
  | foreign f => exact hforeign nofun (foreignType?_foreign f)
  | @list items _ ih =>
    refine (parts_list items).judged ?_ ((together_items items 0).map Json.array)
    rintro ⟨step, x⟩ hx
    obtain ⟨i, hi, -⟩ := mem_itemParts_iff.1 hx
    exact ih x (List.mem_of_getElem? hi)
  | @object ancestry members hd _ ih =>
    have htogether := (together_members (Members.sort members)).map Json.object
    rw [Members.sort_map, ← canonicalMembers_eq_map] at htogether
    refine (parts_object ancestry hd).judged ?_ htogether
    rintro ⟨step, x⟩ hx
    obtain ⟨name, hm, -⟩ := mem_memberParts_iff.1 hx
    exact ih (name, x) hm

/-- A value is refused exactly if something in it has no JSON form, and else it has a canonical
text.  The refusal is that of the first place, depth first, at which something of the kind stands:
it names the place, written from the root on, and the type of what stands there. -/
theorem refusal_names_first_place (v : Value) (hv : v.WellFormed) :
    ((∃ u, v.canonicalText = .error u) ↔ ∃ place w, v.At place w ∧ w.foreignType? ≠ none)
    ∧ ((∃ text, v.canonicalText = .ok text) ↔ ∀ place w, v.At place w → w.foreignType? = none)
    ∧ (∀ u, v.canonicalText = .error u ↔ v.FirstForeign u.place u.typeName)
    ∧ ∀ u : Unsupported,
      u.toError = .unsupported (("$" : Text) ++ pathText u.place) u.typeName := by
  have htext : ∀ u : Unsupported, u.toError
      = .unsupported (("$" : Text) ++ pathText u.place) u.typeName := by
    intro u
    rw [Unsupported.toError, u.placeText_eq]
  have hjudged := judged_canonical hv
  rw [canonicalText]
  cases hend : v.canonical with
  | ok j =>
    rw [hend] at hjudged
    have hpure : ∀ place w, v.At place w → w.foreignType? = none := hjudged
    refine ⟨iff_of_false ?_ ?_, iff_of_true ⟨j.write, rfl⟩ hpure,
      fun u => iff_of_false ?_ ?_, htext⟩
    · rintro ⟨u, ⟨⟩⟩
    · rintro ⟨place, w, hw, hforeign⟩
      exact hforeign (hpure place w hw)
    · intro h
      cases h
    · intro h
      obtain ⟨w, hw, ht⟩ := h.stands
      rw [hpure _ w hw] at ht
      cases ht
  | error u =>
    rw [hend] at hjudged
    have hfirst : v.FirstForeign u.place u.typeName := hjudged
    obtain ⟨w, hw, ht⟩ := hfirst.stands
    have hforeign : w.foreignType? ≠ none := by simp [ht]
    refine ⟨iff_of_true ⟨u, rfl⟩ ⟨_, w, hw, hforeign⟩, iff_of_false ?_ ?_,
      fun u' => ⟨?_, ?_⟩, htext⟩
    · rintro ⟨t, ⟨⟩⟩
    · intro hpure
      exact hforeign (hpure _ w hw)
    · intro h
      cases h
      exact hfirst
    · intro h
      obtain ⟨hplace, htype⟩ := hfirst.eq hv h
      obtain ⟨place, typeName⟩ := u
      obtain ⟨place', typeName'⟩ := u'
      cases hplace
      cases htype
      rfl

/-- The members are visited by their names and not in the order they have, and what is deep in the
first one comes before the second one, which is a place without a value in a list.  The refusal
names the class of the object at the first place. -/
theorem refusal_names_first_place_of_nested :
    let deep : Value :=
      .object .none [("z", .foreign (.bigint 1)), ("k", .list [.null, .foreign (.instance "Set2")])]
    let v : Value := .object .plain [("b", .list [.foreign .hole]), ("a", deep)]
    let w : Value := .list [.list [.string "x", .foreign .date], .number .nan]
    (v.WellFormed ∧ (∃ u, v.canonicalText = .error u)
      ∧ v.FirstForeign [.member "a", .member "k", .item 1] "Set2"
      ∧ (Unsupported.toError ⟨[.member "a", .member "k", .item 1], "Set2"⟩).message
        = "Unsupported JSON value at $.a.k[1]: Set2")
    ∧ w.WellFormed ∧ w.FirstForeign [.item 0, .item 1] "Date"
      ∧ (Unsupported.toError ⟨[.item 0, .item 1], "Date"⟩).message
        = "Unsupported JSON value at $[0][1]: Date" := by
  intro deep v w
  have hdeep : deep.WellFormed := by
    refine .object .none (by decide) ?_
    simp only [List.forall_mem_cons]
    refine ⟨.foreign _, .list ?_, List.forall_mem_nil _⟩
    simp only [List.forall_mem_cons]
    exact ⟨.null, .foreign _, List.forall_mem_nil _⟩
  have hv : v.WellFormed := by
    refine .object .plain (by decide) ?_
    simp only [List.forall_mem_cons]
    refine ⟨.list ?_, hdeep, List.forall_mem_nil _⟩
    simp only [List.forall_mem_cons]
    exact ⟨.foreign _, List.forall_mem_nil _⟩
  have hw : w.WellFormed := by
    refine .list ?_
    simp only [List.forall_mem_cons]
    refine ⟨.list ?_, .number _, List.forall_mem_nil _⟩
    simp only [List.forall_mem_cons]
    exact ⟨.string _, .foreign _, List.forall_mem_nil _⟩
  have hrefused : v.canonicalText
      = .error ⟨[.member "a", .member "k", .item 1], "Set2"⟩ := by cbv
  have hrefused' : w.canonicalText = .error ⟨[.item 0, .item 1], "Date"⟩ := by cbv
  obtain ⟨-, -, hfirst, htext⟩ := refusal_names_first_place v hv
  obtain ⟨-, -, hfirst', -⟩ := refusal_names_first_place w hw
  exact ⟨⟨hv, ⟨_, hrefused⟩, (hfirst _).1 hrefused, by rw [htext]; decide +kernel⟩,
    hw, (hfirst' _).1 hrefused', by rw [htext]; decide +kernel⟩

end Value

end SurfaceGuard
