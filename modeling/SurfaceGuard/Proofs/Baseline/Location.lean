import SurfaceGuard.Baseline.Store
import SurfaceGuard.Proofs.Host.Location
import SurfaceGuard.Proofs.Number.Layout
import SurfaceGuard.Proofs.Path

/-!
# Where baselines are

A path that leads down at every step is found below the location of the directory that it is
joined to, however the directory is written (`LeadsDown.destination_join`).  So all names are
entries of one location (`destination_join`), and two names are the same entry if and only if they
have the same bytes.  A temporary file is never an entry of a baseline
(`temporaryName_ne_fileName`), and two processes never use the same one
(`processId_of_temporaryName`).
-/

namespace SurfaceGuard

/-- The location of the directory that a path names. -/
def directoryLocation (base : Place) (dir : Text) : Location :=
  FileTree.arrive (if Path.isAbsolute dir then [] else base.location)
    ((Path.reduce dir).map Utf8.encode)

/-- A text of ASCII. -/
def Text.IsAscii (t : Text) : Prop := ∀ u ∈ t, u.toNat < 0x80

instance (t : Text) : Decidable t.IsAscii := List.decidableBAll _ t

/-- Bytes of ASCII are those of a single text. -/
theorem eq_of_encode_ascii {x y : Text} (hy : y.IsAscii)
    (h : Utf8.encode x = Utf8.encode y) : x = y := by
  have hy' : Text.isWellFormed y = true :=
    Text.isWellFormed_of_no_surrogate fun u hu => Utf8.not_surrogate_of_lt (hy u hu)
  have hx : Text.wellFormed x = y := by
    rw [← Utf8.decode_encode, h, Utf8.decode_encode_of_isWellFormed hy']
  rw [← hx, Text.wellFormed_eq_self]
  refine Text.isWellFormed_of_not_mem fun hmem => ?_
  have hlt := hy 0xFFFD (hx ▸ hmem)
  exact absurd hlt (by decide)

theorem encode_ne_nil {x : Text} (h : x ≠ []) : Utf8.encode x ≠ [] :=
  fun hx => h (eq_of_encode_ascii (y := []) (by decide) hx)

namespace Path

theorem IsName.encode_ne {x : Text} (hx : IsName x) :
    Utf8.encode x ≠ FileTree.here ∧ Utf8.encode x ≠ FileTree.above := by
  constructor
  · intro h
    exact hx.ne_here (eq_of_encode_ascii (by decide) (h.trans (by decide)))
  · intro h
    exact hx.ne_above (eq_of_encode_ascii (by decide) (h.trans (by decide)))

section Normal

variable {p : Text}

/-- The pieces of a normal form. -/
theorem splitOn_encode_normalize (hp : IsName (leaf p)) :
    Ascii.splitOn FileTree.separator (Utf8.encode (normalize p))
      = (if isAbsolute p then [[]] else []) ++ (way p ++ [leaf p]).map Utf8.encode := by
  have hsegments := segments_normalize hp
  rw [segments] at hsegments
  rw [show FileTree.separator = separator.toUInt8 from by decide, Utf8.splitOn_encode _ (by decide),
    hsegments]
  split <;> rfl

theorem encode_way_ne_nil (hp : IsName (leaf p)) :
    ∀ name ∈ (way p ++ [leaf p]).map Utf8.encode, name ≠ [] := by
  rw [List.forall_mem_map, List.forall_mem_append, List.forall_mem_singleton]
  exact ⟨fun s hs => encode_ne_nil (way_forall p s hs).1, encode_ne_nil hp.ne_nil⟩

/-- The names in a normal form. -/
theorem names_normalize (hp : IsName (leaf p)) :
    (Ascii.splitOn FileTree.separator (Utf8.encode (normalize p))).filter (· ≠ [])
      = (way p).map Utf8.encode ++ [Utf8.encode (leaf p)] := by
  have hkept : ((way p ++ [leaf p]).map Utf8.encode).filter (· ≠ [])
      = (way p ++ [leaf p]).map Utf8.encode := by
    rw [List.filter_eq_self]
    exact fun name hname => by simpa using encode_way_ne_nil hp name hname
  rw [splitOn_encode_normalize hp, List.filter_append, hkept, List.map_append, List.map_singleton]
  split <;> rfl

theorem head?_encode_normalize (hp : IsName (leaf p)) :
    (Utf8.encode (normalize p)).head? = some FileTree.separator ↔ isAbsolute p = true := by
  constructor
  · intro hhead
    by_contra habsolute
    have hsplit := splitOn_encode_normalize hp
    obtain ⟨rest, hrest⟩ := List.head?_eq_some_iff.1 hhead
    rw [hrest, Ascii.splitOn, if_pos (beq_self_eq_true _), if_neg habsolute,
      List.nil_append] at hsplit
    exact encode_way_ne_nil hp [] (hsplit ▸ List.mem_cons_self) rfl
  · intro habsolute
    rw [normalize_eq hp, lead, if_pos habsolute, List.singleton_append,
      Utf8.encode_cons_of_lt _ (by decide)]
    rfl

/-- A normal form with a name at its end asks for no directory. -/
theorem asksDirectory_normalize (hp : IsName (leaf p)) :
    FileTree.asksDirectory (Utf8.encode (normalize p)) = false := by
  rw [FileTree.asksDirectory, beq_eq_false_iff_ne]
  intro hlast
  obtain ⟨front, hfront⟩ := List.getLast?_eq_some_iff.1 hlast
  have hsplit := splitOn_encode_normalize hp
  rw [hfront, Ascii.splitOn_eq, List.splitOn_append_cons_self, List.splitOn_nil, List.map_append,
    ← List.append_assoc] at hsplit
  obtain ⟨-, hlast⟩ := List.append_inj' hsplit rfl
  exact encode_ne_nil hp.ne_nil (List.singleton_inj.1 hlast).symm

/-- A normal form leads to an entry of the directory that the names before the last one lead to. -/
theorem destination_normalize (base : Place) (hp : IsName (leaf p)) :
    FileTree.destination base (Utf8.encode (normalize p))
      = FileTree.arrive (if isAbsolute p then [] else base.location) ((way p).map Utf8.encode)
        ++ [Utf8.encode (leaf p)] := by
  rw [FileTree.destination, names_normalize hp, FileTree.arrive_append, FileTree.arrive,
    if_neg hp.encode_ne.1, if_neg hp.encode_ne.2, FileTree.arrive]
  simp only [head?_encode_normalize hp]

/-- Names lead down. -/
theorem arrive_names (loc : Location) {names : List Text} (h : ∀ x ∈ names, IsName x) :
    FileTree.arrive loc (names.map Utf8.encode) = loc ++ names.map Utf8.encode := by
  induction names generalizing loc with
  | nil => exact (List.append_nil loc).symm
  | cons x names ih =>
    obtain ⟨hx, hnames⟩ := List.forall_mem_cons.1 h
    rw [List.map_cons, FileTree.arrive, if_neg hx.encode_ne.1, if_neg hx.encode_ne.2, ih _ hnames,
      List.append_assoc, List.singleton_append]

/-- A path that leads down is found below the location of the directory. -/
theorem LeadsDown.destination_join (h : LeadsDown p) (hp : IsName (leaf p)) (base : Place)
    (dir : Text) :
    FileTree.destination base (Utf8.encode (join dir p))
      = directoryLocation base dir ++ (segments p).map Utf8.encode := by
  have hsome : p ≠ [] := by
    rintro rfl
    exact hp.ne_nil rfl
  rw [join_eq dir hsome, destination_normalize base (leaf_below dir p ▸ hp), h.isAbsolute_below,
    h.way_below, leaf_below, List.map_append, FileTree.arrive_append, arrive_names _ h, segments_eq,
    List.map_append, List.append_assoc]
  rfl

end Normal

/-- The path of an entry asks for no directory. -/
theorem asksDirectory_join (dir : Text) {x : Text} (hx : IsName x) :
    FileTree.asksDirectory (Utf8.encode (join dir x)) = false := by
  rw [join_eq dir hx.ne_nil]
  refine asksDirectory_normalize ?_
  rw [leaf_below, leaf_of_not_mem hx.no_separator]
  exact hx

/-- An entry of a directory is found at the location of the directory. -/
theorem destination_join (base : Place) (dir : Text) {x : Text} (hx : IsName x) :
    FileTree.destination base (Utf8.encode (join dir x))
      = directoryLocation base dir ++ [Utf8.encode x] := by
  have hdown := leadsDown_of_not_mem hx.no_separator
  rw [hdown.destination_join (by rwa [leaf_of_not_mem hx.no_separator]),
    segments_of_not_mem hx.no_separator, List.map_singleton]

end Path

namespace Baseline

/-- The name of the baseline of a target in its directory. -/
def fileName (target : Text) : Text := target ++ ".json"

/-- The name of the file in which the new content is written first. -/
def temporaryName (target : Text) (processId : Nat) (clock : Number) : Text :=
  "." ++ target ++ ".json." ++ Text.ofNat processId ++ "." ++ clock.toText ++ ".tmp"

theorem path_eq_join (dir target : Text) : path dir target = Path.join dir (fileName target) := rfl

theorem temporaryPath_eq_join (dir target : Text) (processId : Nat) (clock : Number) :
    temporaryPath dir target processId clock
      = Path.join dir (temporaryName target processId clock) := rfl

theorem isName_fileName {target : Text} (h : Path.separator ∉ target) :
    Path.IsName (fileName target) := by
  unfold fileName
  refine Path.isName_of_length ?_ ?_
  · simp [Text.ofString, Text.ofScalar]
  · rw [List.mem_append, not_or]
    exact ⟨h, by decide⟩

/-- What follows the target in the name of a temporary file, after a point. -/
def temporaryEnding (processId : Nat) (clock : Number) : Text :=
  ("json" : Text) ++ 0x2E ::
    (Text.ofNat processId ++ 0x2E :: (clock.toText ++ 0x2E :: ("tmp" : Text)))

theorem temporaryName_eq (target : Text) (processId : Nat) (clock : Number) :
    temporaryName target processId clock
      = (("." : Text) ++ target) ++ 0x2E :: temporaryEnding processId clock := by
  simp only [temporaryName, temporaryEnding, List.append_assoc]
  rfl

theorem ascii_temporaryEnding (processId : Nat) (clock : Number) :
    ∀ u ∈ 0x2E :: temporaryEnding processId clock, u.toNat < 0x80 ∧ u ≠ Path.separator := by
  intro u hu
  have hpoint : (0x2E : CodeUnit).toNat < 0x80 ∧ (0x2E : CodeUnit) ≠ Path.separator := by decide
  have hplain : ∀ t : Text, t.IsPlain → ∀ u ∈ t, u.toNat < 0x80 ∧ u ≠ Path.separator :=
    fun t ht u hu => ⟨(ht u hu).1, (ht u hu).2.2⟩
  have hclock : ∀ u ∈ clock.toText, u.toNat < 0x80 ∧ u ≠ Path.separator := by
    rcases clock.toText_cases with h | ⟨s, t, h, hs, ht⟩
    · exact hplain _ h
    · rw [h]
      exact List.forall_mem_append.2 ⟨hplain s hs, List.forall_mem_cons.2 ⟨hpoint, hplain t ht⟩⟩
  simp only [temporaryEnding, List.mem_cons, List.mem_append] at hu
  rcases hu with rfl | hu | rfl | hu | rfl | hu | rfl | hu
  · exact hpoint
  · exact hplain _ (by decide) u hu
  · exact hpoint
  · exact hplain _ (Text.isPlain_ofNat processId) u hu
  · exact hpoint
  · exact hclock u hu
  · exact hpoint
  · exact hplain _ (by decide) u hu

theorem isName_temporaryName {target : Text} (h : Path.separator ∉ target) (processId : Nat)
    (clock : Number) : Path.IsName (temporaryName target processId clock) := by
  rw [temporaryName_eq]
  refine Path.isName_of_length ?_ ?_
  · simp [temporaryEnding, Text.ofString, Text.ofScalar]
    omega
  · rw [List.mem_append, not_or, List.mem_append, not_or]
    exact ⟨⟨by decide, h⟩, fun hmem => (ascii_temporaryEnding _ _ _ hmem).2 rfl⟩

/-- The baselines of two targets are the same file if the targets have the same bytes. -/
theorem encode_fileName_eq_iff {target other : Text} :
    Utf8.encode (fileName target) = Utf8.encode (fileName other)
      ↔ Utf8.encode target = Utf8.encode other := by
  have hcut : ∀ t : Text, Utf8.encode (fileName t) = Utf8.encode t ++ Utf8.encode ".json" :=
    fun t => Utf8.encode_append_cons t "json" (by decide)
  rw [hcut, hcut, List.append_cancel_right_eq]

/-- Two targets use the same temporary file if they have the same bytes. -/
theorem encode_temporaryName_eq_iff {target other : Text} {processId : Nat} {clock : Number} :
    Utf8.encode (temporaryName target processId clock)
        = Utf8.encode (temporaryName other processId clock)
      ↔ Utf8.encode target = Utf8.encode other := by
  have hcut : ∀ t : Text, Utf8.encode (temporaryName t processId clock)
      = 0x2E :: (Utf8.encode t ++ Utf8.encode (0x2E :: temporaryEnding processId clock)) := by
    intro t
    rw [temporaryName_eq, Utf8.encode_append_cons _ _ (by decide)]
    exact congrArg (· ++ _) (Utf8.encode_cons_of_lt t (by decide))
  rw [hcut, hcut, List.cons_inj_right, List.append_cancel_right_eq]

theorem encode_temporaryEnding_ne (x y : Text) (processId : Nat) (clock : Number) :
    Utf8.encode (x ++ 0x2E :: temporaryEnding processId clock) ≠ Utf8.encode (fileName y) := by
  intro h
  have htemporary : (Utf8.encode (x ++ 0x2E :: temporaryEnding processId clock)).getLast?
      = some 0x70 := by
    have hcut : x ++ 0x2E :: temporaryEnding processId clock
        = (x ++ 0x2E :: ("json" : Text) ++ 0x2E :: Text.ofNat processId ++ 0x2E :: clock.toText)
          ++ 0x2E :: ("tmp" : Text) := by
      simp only [temporaryEnding, List.append_assoc, List.cons_append]
    rw [hcut, Utf8.encode_append_cons _ _ (by decide), List.getLast?_append_of_ne_nil _ (by decide)]
    decide
  have hfile : (Utf8.encode (fileName y)).getLast? = some 0x6E := by
    rw [fileName, show (".json" : Text) = 0x2E :: "json" from rfl,
      Utf8.encode_append_cons _ _ (by decide), List.getLast?_append_of_ne_nil _ (by decide)]
    decide
  rw [h, hfile] at htemporary
  exact absurd htemporary (by decide)

/-- A temporary file is no baseline. -/
theorem temporaryName_ne_fileName (target other : Text) (processId : Nat) (clock : Number) :
    Utf8.encode (temporaryName target processId clock) ≠ Utf8.encode (fileName other) := by
  rw [temporaryName_eq]
  exact encode_temporaryEnding_ne _ _ _ _

theorem wellFormed_temporaryName (target : Text) (processId : Nat) (clock : Number) :
    Text.wellFormed (temporaryName target processId clock)
      = Text.wellFormed (("." : Text) ++ target) ++ 0x2E :: temporaryEnding processId clock := by
  have hending : Text.isWellFormed (0x2E :: temporaryEnding processId clock) = true :=
    Text.isWellFormed_of_no_surrogate fun u hu =>
      Utf8.not_surrogate_of_lt (ascii_temporaryEnding _ _ u hu).1
  rw [temporaryName_eq, Text.wellFormed_append_cons _ _ (by decide),
    Text.wellFormed_eq_self hending]

theorem splitOn_temporaryName (target : Text) (processId : Nat) (clock : Number) :
    List.splitOn 0x2E (Text.wellFormed (temporaryName target processId clock))
      = List.splitOn 0x2E (Text.wellFormed (("." : Text) ++ target))
        ++ [("json" : Text), Text.ofNat processId]
        ++ (List.splitOn 0x2E clock.toText ++ [("tmp" : Text)]) := by
  have hjson : List.splitOn 0x2E ("json" : Text) = [("json" : Text)] :=
    List.splitOn_eq_singleton (by decide)
  have htmp : List.splitOn 0x2E ("tmp" : Text) = [("tmp" : Text)] :=
    List.splitOn_eq_singleton (by decide)
  have hprocess : List.splitOn 0x2E (Text.ofNat processId) = [Text.ofNat processId] :=
    List.splitOn_eq_singleton fun h => (Text.isPlain_ofNat processId _ h).2.1 rfl
  rw [wellFormed_temporaryName, temporaryEnding]
  simp only [List.splitOn_append_cons_self, hjson, htmp, hprocess, List.append_assoc,
    List.cons_append, List.nil_append]

theorem length_splitOn_toText (clock : Number) :
    (List.splitOn 0x2E clock.toText).length = 1 ∨ (List.splitOn 0x2E clock.toText).length = 2 := by
  have hsingle : ∀ t : Text, t.IsPlain → List.splitOn 0x2E t = [t] :=
    fun t ht => List.splitOn_eq_singleton fun h => (ht _ h).2.1 rfl
  rcases clock.toText_cases with h | ⟨s, t, h, hs, ht⟩
  · exact Or.inl (by rw [hsingle _ h]; rfl)
  · exact Or.inr (by rw [h, List.splitOn_append_cons_self, hsingle s hs, hsingle t ht]; rfl)

/-- Two entries before the ends of equal lists, where one end is longer by an entry. -/
theorem eq_of_longer_end {α : Type} {x x' e e' : List α} {a p p' : α}
    (h : x ++ [a, p] ++ e = x' ++ [a, p'] ++ e') (hlength : e'.length = e.length + 1) : a = p' := by
  cases e' with
  | nil => cases hlength
  | cons c e' =>
    have hshift : x ++ [a, p] ++ e = (x' ++ [a]) ++ [p', c] ++ e' := by simpa using h
    obtain ⟨hfront, -⟩ := List.append_inj' hshift (by simpa using hlength.symm)
    obtain ⟨-, hback⟩ := List.append_inj' hfront rfl
    exact (List.cons.inj hback).1

/-- No two processes use the same temporary file. -/
theorem processId_of_temporaryName {target target' : Text} {processId processId' : Nat}
    {clock clock' : Number} (h : Utf8.encode (temporaryName target processId clock)
      = Utf8.encode (temporaryName target' processId' clock')) : processId = processId' := by
  have hformed : Text.wellFormed (temporaryName target processId clock)
      = Text.wellFormed (temporaryName target' processId' clock') := by
    rw [← Utf8.decode_encode, h, Utf8.decode_encode]
  have hsplit := congrArg (List.splitOn 0x2E) hformed
  rw [splitOn_temporaryName, splitOn_temporaryName] at hsplit
  have hnumber : ∀ p q : Nat, Text.ofNat p = Text.ofNat q → p = q := fun p q hpq => by
    rw [← Text.toNat_ofNat p, hpq, Text.toNat_ofNat]
  have hjson : ∀ p : Nat, ("json" : Text) ≠ Text.ofNat p := fun p hp =>
    absurd (Text.ofNat_digits p 0x6A (hp ▸ by decide)) (by decide)
  -- the pieces are compared from the end, where the clock has one or two of them
  have heven : (List.splitOn 0x2E clock.toText).length = (List.splitOn 0x2E clock'.toText).length →
      processId = processId' := by
    intro hlength
    obtain ⟨hfront, -⟩ := List.append_inj' hsplit (by simpa using hlength)
    obtain ⟨-, hback⟩ := List.append_inj' hfront rfl
    exact hnumber _ _ (by simpa using hback)
  rcases length_splitOn_toText clock with hc | hc <;>
    rcases length_splitOn_toText clock' with hc' | hc'
  · exact heven (hc.trans hc'.symm)
  · exact absurd (eq_of_longer_end hsplit (by simp [hc, hc'])) (hjson _)
  · exact absurd (eq_of_longer_end hsplit.symm (by simp [hc, hc'])) (hjson _)
  · exact heven (hc.trans hc'.symm)

end Baseline

end SurfaceGuard
