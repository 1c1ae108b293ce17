import SurfaceGuard.Host.FileTree
import SurfaceGuard.Proofs.Host.Node

/-!
# Where paths lead

A path has a `destination`, which is read off its names without looking at the files.
Whatever a path is found to lead to, a node or a missing name, is at its destination
(`locate_cases`), so two paths with different destinations never meet.

`Puts` says of two trees that they differ at a single location, where there was no
directory, and `Keeps` that no directory is lost, so that the ways through them stay open
(`locate_of_keeps`).
-/

namespace SurfaceGuard

/-! ## Operations that can fail -/

/-- An operation that succeeds in two parts. -/
theorem exists_of_bind_ok {ε α β : Type} {x : Except ε α} {next : α → Except ε β} {b : β}
    (h : (x >>= next) = .ok b) : ∃ a, x = .ok a ∧ next a = .ok b := by
  cases x with
  | error e => cases h
  | ok a => exact ⟨a, rfl, h⟩

theorem exists_of_map_ok {ε α β : Type} {x : Except ε α} {f : α → β} {b : β}
    (h : f <$> x = .ok b) : ∃ a, x = .ok a ∧ f a = b := by
  cases x with
  | error e => cases h
  | ok a => exact ⟨a, rfl, Except.ok.inj h⟩

/-- An operation that succeeds although it refuses in some case. -/
theorem ok_of_ite_error {ε α : Type} {c : Prop} [Decidable c] {e : ε} {x : Except ε α} {a : α}
    (h : (if c then .error e else x) = .ok a) : ¬c ∧ x = .ok a := by
  split at h
  · cases h
  · next hc => exact ⟨hc, h⟩

theorem eq_ok_of_toOption {ε α : Type} {x : Except ε α} {a : α} (h : x.toOption = some a) :
    x = .ok a := by
  cases x with
  | ok b => exact congrArg Except.ok (Option.some.inj h)
  | error e => cases h

/-- What an operation that succeeds gives. -/
theorem eq_ok_getD {ε α : Type} {x : Except ε α} (h : x.toOption.isSome = true) (d : α) :
    x = .ok (x.toOption.getD d) := by
  cases x with
  | ok a => rfl
  | error e => cases h

namespace FileTree

variable {t t' : FileTree}

/-! ## What is where -/

/-- The face of what is at a location. -/
def face? (t : FileTree) (loc : Location) : Option Node := (t.node? loc).map Node.face

/-- The content of the regular file at a location. -/
def content? (t : FileTree) (loc : Location) : Option Bytes := (t.node? loc).bind Node.content?

theorem content?_eq (t : FileTree) (loc : Location) :
    t.content? loc = (t.face? loc).bind Node.content? := by
  rw [content?, face?]
  cases t.node? loc with
  | none => rfl
  | some n => exact (Node.content?_face n).symm

theorem node?_change (t : FileTree) (loc rest : Location) (f : Node → Node) :
    (t.change loc f).node? (loc ++ rest) = (t.node? loc).bind fun n => (f n).find? rest :=
  Node.find?_change_append f t.root loc rest

theorem face?_change_elsewhere {loc other : Location} (f : Node → Node) (h : ¬loc <+: other) :
    (t.change loc f).face? other = t.face? other :=
  Node.face_find?_change h

theorem node?_append (t : FileTree) (loc rest : Location) :
    t.node? (loc ++ rest) = (t.node? loc).bind fun n => n.find? rest :=
  Node.find?_append t.root loc rest

/-- A node without entries is changed to another one without entries. -/
theorem face?_change_leaf {loc : Location} {n : Node} {f : Node → Node} (h : t.node? loc = some n)
    (hn : n.entries = []) (hf : (f n).entries = []) (other : Location) :
    (t.change loc f).face? other = if other = loc then some (f n).face else t.face? other := by
  by_cases hp : loc <+: other
  · obtain ⟨rest, rfl⟩ := hp
    rw [face?, face?, node?_change, node?_append, h]
    cases rest with
    | nil => simp [Node.find?]
    | cons name rest => simp [Node.find?_eq_none hn, Node.find?_eq_none hf]
  · have hne : other ≠ loc := fun h => hp (h ▸ List.prefix_rfl)
    rw [face?_change_elsewhere f hp, if_neg hne]

/-- A directory is at the location. -/
def DirectoryAt (t : FileTree) (loc : Location) : Prop := ∃ a, t.face? loc = some (.directory a [])

theorem directoryAt_iff {loc : Location} :
    t.DirectoryAt loc ↔ ∃ n, t.node? loc = some n ∧ n.isDirectory = true := by
  constructor
  · rintro ⟨a, ha⟩
    obtain ⟨n, hn, hface⟩ := Option.map_eq_some_iff.1 ha
    refine ⟨n, hn, ?_⟩
    cases n <;> simp_all [Node.face, Node.isDirectory]
  · rintro ⟨n, hn, hdirectory⟩
    obtain ⟨a, entries, rfl⟩ := Node.isDirectory_iff.1 hdirectory
    exact ⟨{ a with modified := 0 }, by rw [face?, hn]; rfl⟩

/-- Where no directory is, nothing is below. -/
theorem entries_eq_nil {loc : Location} {n : Node} (h : ¬t.DirectoryAt loc)
    (hn : t.node? loc = some n) : n.entries = [] := by
  refine Node.entries_of_not_directory (Bool.eq_false_iff.2 fun hdirectory => h ?_)
  exact directoryAt_iff.2 ⟨n, hn, hdirectory⟩

/-- The second tree has the given face at a location where no directory was, and is else as the
first one. -/
def Puts (t : FileTree) (loc : Location) (face? : Option Node) (t' : FileTree) : Prop :=
  ¬t.DirectoryAt loc ∧ ∀ other, t'.face? other = if other = loc then face? else t.face? other

/-- One entry of a directory is changed, where nothing is below it, neither before nor after. -/
theorem puts_change_entry {loc : Location} {f : Node → Node} {name : Bytes} {child? : Option Node}
    (hf : Node.ChangesEntry f name child?) (h : t.DirectoryAt loc)
    (hbefore : ¬t.DirectoryAt (loc ++ [name])) (hafter : ∀ n, child? = some n → n.entries = []) :
    t.Puts (loc ++ [name]) (child?.map Node.face) (t.change loc f) := by
  refine ⟨hbefore, fun other => ?_⟩
  obtain ⟨n, hn, hdirectory⟩ := directoryAt_iff.1 h
  obtain ⟨a, entries, rfl⟩ := Node.isDirectory_iff.1 hdirectory
  by_cases hp : loc <+: other
  · obtain ⟨rest, rfl⟩ := hp
    obtain ⟨time, entries', hchanged, hlookup⟩ := hf a entries
    rw [face?, face?, node?_change, node?_append, hn]
    simp only [Option.bind_some, hchanged]
    cases rest with
    | nil => simp [Node.find?, Node.face]
    | cons key rest =>
      rw [Node.find?, Node.find?, Node.entry?, Node.entry?, Node.entries, Node.entries, hlookup]
      by_cases hk : key = name
      · subst hk
        cases rest with
        | nil => cases child? <;> simp [Node.find?]
        | cons key' rest =>
          have hgone : ∀ o : Option Node, (∀ n, o = some n → n.entries = []) →
              (o.bind fun n => n.find? (key' :: rest)) = none := by
            intro o ho
            cases o with
            | none => rfl
            | some n => exact Node.find?_eq_none (ho n rfl) key' rest
          have hold : ∀ n, entries.lookup key = some n → n.entries = [] := by
            intro n hlook
            refine entries_eq_nil hbefore ?_
            rw [node?_append, hn]
            simp [Node.find?, Node.entry?, Node.entries, hlook]
          rw [if_pos rfl, hgone _ hold, hgone _ hafter]
          simp
      · simp [hk]
  · have hne : other ≠ loc ++ [name] := fun h => hp (h ▸ List.prefix_append loc [name])
    rw [face?_change_elsewhere f hp, if_neg hne]

theorem face?_eq_file {loc : Location} {a : Attributes} {content : Bytes} :
    t.face? loc = some (.file a content) ↔ t.node? loc = some (.file a content) := by
  rw [face?, Option.map_eq_some_iff]
  constructor
  · rintro ⟨n, hn, hface⟩
    cases n <;> simp_all [Node.face]
  · exact fun h => ⟨_, h, rfl⟩

/-! ## Spots -/

/-- The spot is one of the tree. -/
inductive Has (t : FileTree) : Spot → Prop
  | root : t.Has t.rootSpot
  | entry {s : Spot} {name : Bytes} {child : Node} (h : t.Has s)
      (hchild : s.node.entry? name = some child) : t.Has (s.below name child)

theorem location_below (s : Spot) (name : Bytes) (child : Node) :
    (s.below name child).location = s.location ++ [name] := by
  simp [Spot.location, Spot.below]

theorem location_above (s : Spot) : s.above.location = s.location.dropLast := by
  obtain ⟨node, way⟩ := s
  cases way <;> simp [Spot.location, Spot.above]

theorem Has.node? {s : Spot} (h : t.Has s) : t.node? s.location = some s.node := by
  induction h with
  | root => rfl
  | entry h hchild ih =>
    rw [location_below, node?_append, ih]
    simpa [Node.find?, Spot.below] using hchild

theorem Has.above {s : Spot} (h : t.Has s) : t.Has s.above := by
  cases h with
  | root => exact .root
  | entry h _ => exact h

theorem Has.directoryAt {s : Spot} (h : t.Has s) (hs : s.node.isDirectory = true) :
    t.DirectoryAt s.location :=
  directoryAt_iff.2 ⟨_, h.node?, hs⟩

theorem Has.not_directoryAt {s : Spot} (h : t.Has s) (hs : s.node.isDirectory = false) :
    ¬t.DirectoryAt s.location := by
  rintro hdirectory
  obtain ⟨n, hn, hdir⟩ := directoryAt_iff.1 hdirectory
  rw [h.node?, Option.some.injEq] at hn
  rw [hn, hdir] at hs
  cases hs

/-- A name that is missing in a directory leads to nothing. -/
theorem Has.face?_missing {s : Spot} {name : Bytes} (h : t.Has s)
    (hname : s.node.entry? name = none) :
    t.face? (s.location ++ [name]) = none := by
  rw [face?, node?_append, h.node?]
  simp [Node.find?, hname]

theorem not_directoryAt_of_none {loc : Location} (h : t.face? loc = none) : ¬t.DirectoryAt loc := by
  rintro ⟨a, ha⟩
  rw [h] at ha
  cases ha

theorem has_spotFrom {s s' : Spot} {loc : Location} (h : spotFrom s loc = some s') (hs : t.Has s) :
    t.Has s' ∧ s'.location = s.location ++ loc := by
  induction loc generalizing s with
  | nil =>
    rw [spotFrom, Option.some.injEq] at h
    subst h
    exact ⟨hs, (List.append_nil _).symm⟩
  | cons name loc ih =>
    rw [spotFrom, Option.bind_eq_some_iff] at h
    obtain ⟨child, hchild, hrest⟩ := h
    obtain ⟨h1, h2⟩ := ih hrest (hs.entry hchild)
    exact ⟨h1, by rw [h2, location_below, List.append_assoc]; rfl⟩

theorem has_spotOf {p : Place} {s : Spot} (h : t.spotOf p = .ok s) :
    t.Has s ∧ s.location = p.location ∧ s.node.attributes.serial = p.serial := by
  rw [spotOf] at h
  split at h
  · next s' hs =>
    split at h
    · next hserial =>
      cases h
      obtain ⟨h1, h2⟩ := has_spotFrom hs .root
      exact ⟨h1, h2, hserial⟩
    · cases h
  · cases h

/-! ## Where paths lead -/

/-- The location that names lead to from another one, whatever is there. -/
def arrive : Location → List Bytes → Location
  | loc, [] => loc
  | loc, name :: rest =>
    if name = here then arrive loc rest
    else if name = above then arrive loc.dropLast rest
    else arrive (loc ++ [name]) rest

/-- The location that a path leads to, whatever is there. -/
def destination (base : Place) (path : Bytes) : Location :=
  arrive (if path.head? = some separator then [] else base.location)
    ((Ascii.splitOn separator path).filter (· ≠ []))

theorem arrive_append (loc : Location) (names rest : List Bytes) :
    arrive loc (names ++ rest) = arrive (arrive loc names) rest := by
  induction names generalizing loc with
  | nil => rfl
  | cons name names ih =>
    rw [List.cons_append, arrive, arrive, ih, ih, ih]
    split
    · rfl
    · split <;> rfl

/-- What a walk along names can come to. -/
theorem walk_cases {s : Spot} {names : List Bytes} {found : Found} (h : walk s names = .ok found)
    (hs : t.Has s) :
    (∃ s', found = .spot s' ∧ t.Has s' ∧ s'.location = arrive s.location names)
    ∨ ∃ directory name, found = .missing directory name ∧ t.Has directory
      ∧ directory.node.isDirectory = true ∧ directory.node.entry? name = none
      ∧ directory.location ++ [name] = arrive s.location names := by
  induction names generalizing s with
  | nil =>
    rw [walk] at h
    cases h
    exact Or.inl ⟨s, rfl, hs, rfl⟩
  | cons name rest ih =>
    rw [walk] at h
    rw [arrive]
    split at h
    · cases h
    next hdirectory =>
    rw [Bool.not_eq_true', Bool.not_eq_false] at hdirectory
    split at h
    · cases h
    split at h
    · next hhere =>
      rw [if_pos hhere]
      exact ih h hs
    next hhere =>
    rw [if_neg hhere]
    split at h
    · next habove =>
      rw [if_pos habove, ← location_above]
      exact ih h hs.above
    next habove =>
    rw [if_neg habove]
    split at h
    · cases h
    split at h
    · next child hchild =>
      rw [← location_below s name child]
      exact ih h (hs.entry hchild)
    · next hmissing =>
      split at h
      · next hrest =>
        cases h
        rw [List.isEmpty_iff.1 hrest]
        exact Or.inr ⟨s, name, rfl, hs, hdirectory, hmissing, rfl⟩
      · cases h

theorem locate_cases {base : Place} {path : Bytes} {found : Found}
    (h : t.locate base path = .ok found) :
    (∃ s, found = .spot s ∧ t.Has s ∧ s.location = destination base path)
    ∨ ∃ directory name, found = .missing directory name ∧ t.Has directory
      ∧ directory.node.isDirectory = true ∧ directory.node.entry? name = none
      ∧ directory.location ++ [name] = destination base path := by
  rw [locate] at h
  obtain ⟨-, h⟩ := ok_of_ite_error h
  obtain ⟨-, h⟩ := ok_of_ite_error h
  rw [destination]
  split at h
  · next hroot =>
    rw [if_pos hroot]
    exact walk_cases h .root
  · next hroot =>
    obtain ⟨start, hstart, h⟩ := exists_of_bind_ok h
    obtain ⟨hhas, hloc, -⟩ := has_spotOf hstart
    rw [if_neg hroot, ← hloc]
    exact walk_cases h hhas

theorem locate_spot {base : Place} {path : Bytes} {s : Spot}
    (h : t.locate base path = .ok (.spot s)) :
    t.Has s ∧ s.location = destination base path := by
  obtain ⟨s', heq, hhas, hloc⟩ | ⟨directory, name, heq, -⟩ := locate_cases h
  · cases heq
    exact ⟨hhas, hloc⟩
  · cases heq

theorem locate_missing {base : Place} {path name : Bytes} {directory : Spot}
    (h : t.locate base path = .ok (.missing directory name)) :
    t.Has directory ∧ directory.node.isDirectory = true ∧ directory.node.entry? name = none
      ∧ directory.location ++ [name] = destination base path := by
  obtain ⟨s', heq, -⟩ | ⟨d, n, heq, h⟩ := locate_cases h
  · cases heq
  · cases heq
    exact h

theorem find_spot {base : Place} {path : Bytes} {s : Spot} (h : t.find base path = .ok s) :
    t.Has s ∧ s.location = destination base path := by
  rw [find] at h
  obtain ⟨found, hl, h⟩ := exists_of_bind_ok h
  cases found with
  | missing directory name => cases h
  | spot s' =>
    obtain ⟨-, h⟩ := ok_of_ite_error h
    cases h
    exact locate_spot hl


/-- A path that asks for no directory leads to a node or to a missing name, once it can be
followed. -/
theorem find_of_locate {base : Place} {path : Bytes} {found : Found}
    (h : t.locate base path = .ok found) (hpath : asksDirectory path = false) :
    (∃ s, t.find base path = .ok s)
      ∨ t.find base path = .error .noEntry ∧ t.face? (destination base path) = none := by
  rw [find, h]
  cases found with
  | spot s =>
    refine Or.inl ⟨s, ?_⟩
    simp [bind, Except.bind, hpath]
  | missing directory name =>
    obtain ⟨hhas, -, hmissing, hloc⟩ := locate_missing h
    exact Or.inr ⟨rfl, hloc ▸ hhas.face?_missing hmissing⟩

/-! ## Directories that stay -/

/-- Every directory of the first tree is as well one of the second. -/
def Keeps (t t' : FileTree) : Prop := ∀ loc, t.DirectoryAt loc → t'.face? loc = t.face? loc

theorem Keeps.trans {u : FileTree} (h : t.Keeps t') (h' : t'.Keeps u) : t.Keeps u := by
  intro loc hloc
  rw [← h loc hloc]
  obtain ⟨a, ha⟩ := hloc
  exact h' loc ⟨a, by rw [h loc ⟨a, ha⟩, ha]⟩

theorem Puts.keeps {loc : Location} {face? : Option Node} (h : t.Puts loc face? t') :
    t.Keeps t' := by
  intro other hother
  rw [h.2, if_neg]
  rintro rfl
  exact h.1 hother

/-- The node at the location of a directory that stays is a directory, and may be used as before. -/
theorem Keeps.node {s s' : Spot} (h : t.Keeps t') (hs : t.Has s) (hs' : t'.Has s')
    (hloc : s'.location = s.location) (hdirectory : s.node.isDirectory = true) :
    s'.node.isDirectory = true ∧ s'.node.allows .search = s.node.allows .search := by
  have hface := h s.location (hs.directoryAt hdirectory)
  rw [face?, face?, hs.node?, ← hloc, hs'.node?] at hface
  cases hnode : s.node <;> cases hnode' : s'.node <;>
    simp_all [Node.face, Node.isDirectory, Node.allows, Node.attributes]

/-- A name that leads to a directory still leads somewhere. -/
theorem Keeps.entry (h : t.Keeps t') {s s' : Spot} (hs : t.Has s) (hs' : t'.Has s')
    (hloc : s'.location = s.location) {name : Bytes} {child : Node}
    (hentry : s.node.entry? name = some child) (hchild : child.isDirectory = true) :
    s'.node.entry? name ≠ none := by
  intro hentry'
  have hat := (hs.entry hentry).directoryAt hchild
  have hkept := h _ hat
  obtain ⟨a, ha⟩ := hat
  rw [ha, location_below, ← hloc, hs'.face?_missing hentry'] at hkept
  cases hkept

/-- A walk can still be made where no directory on its way is lost. -/
theorem walk_of_keeps (h : t.Keeps t') {s s' : Spot} {names : List Bytes} {found : Found}
    (hwalk : walk s names = .ok found) (hs : t.Has s) (hs' : t'.Has s')
    (hloc : s'.location = s.location) : ∃ found', walk s' names = .ok found' := by
  induction names generalizing s s' with
  | nil => exact ⟨.spot s', by rw [walk]⟩
  | cons name rest ih =>
    rw [walk] at hwalk ⊢
    obtain ⟨hdirectory, hwalk⟩ := ok_of_ite_error hwalk
    obtain ⟨hsearch, hwalk⟩ := ok_of_ite_error hwalk
    have hdirectory : s.node.isDirectory = true := by simpa using hdirectory
    obtain ⟨hdirectory', hsearch'⟩ := h.node hs hs' hloc hdirectory
    rw [if_neg (by simp [hdirectory']), if_neg (by simpa [hsearch'] using hsearch)]
    by_cases hhere : name = here
    · rw [if_pos hhere] at hwalk ⊢
      exact ih hwalk hs hs' hloc
    rw [if_neg hhere] at hwalk ⊢
    by_cases habove : name = above
    · rw [if_pos habove] at hwalk ⊢
      exact ih hwalk hs.above hs'.above (by rw [location_above, location_above, hloc])
    rw [if_neg habove] at hwalk ⊢
    obtain ⟨hlength, hwalk⟩ := ok_of_ite_error hwalk
    rw [if_neg hlength]
    cases hentry' : s'.node.entry? name with
    | some child' =>
      cases hentry : s.node.entry? name with
      | some child =>
        rw [hentry] at hwalk
        exact ih hwalk (hs.entry hentry) (hs'.entry hentry')
          (by rw [location_below, location_below, hloc])
      | none =>
        rw [hentry] at hwalk
        cases rest with
        | nil => exact ⟨.spot (s'.below name child'), rfl⟩
        | cons name' rest => cases hwalk
    | none =>
      cases rest with
      | nil => exact ⟨_, rfl⟩
      | cons name' rest =>
        -- the name leads to a directory, which would be lost
        cases hentry : s.node.entry? name with
        | none => rw [hentry] at hwalk; cases hwalk
        | some child =>
          rw [hentry] at hwalk
          obtain ⟨hchild, -⟩ := ok_of_ite_error hwalk
          have hchild : child.isDirectory = true := by simpa [Spot.below] using hchild
          exact absurd hentry' (h.entry hs hs' hloc hentry hchild)

theorem exists_spotFrom {s : Spot} {loc : Location} {n : Node} (h : s.node.find? loc = some n) :
    ∃ s', spotFrom s loc = some s' ∧ s'.node = n := by
  induction loc generalizing s with
  | nil => exact ⟨s, rfl, Option.some.inj h⟩
  | cons name loc ih =>
    rw [Node.find?, Option.bind_eq_some_iff] at h
    obtain ⟨child, hchild, hrest⟩ := h
    obtain ⟨s', hs', hn⟩ := ih (s := s.below name child) hrest
    exact ⟨s', by rw [spotFrom, hchild, Option.bind_some, hs'], hn⟩

theorem spotOf_of_keeps (h : t.Keeps t') {p : Place} {s : Spot} (hs : t.spotOf p = .ok s)
    (hdirectory : s.node.isDirectory = true) : ∃ s', t'.spotOf p = .ok s' := by
  obtain ⟨hhas, hloc, hserial⟩ := has_spotOf hs
  have hface := h _ (hhas.directoryAt hdirectory)
  rw [face?, face?, hhas.node?, hloc, Option.map_some, Option.map_eq_some_iff] at hface
  obtain ⟨n, hn, hface⟩ := hface
  obtain ⟨s', hs', rfl⟩ := exists_spotFrom (s := t'.rootSpot) hn
  refine ⟨s', ?_⟩
  have hkept : s'.node.attributes.serial = s.node.attributes.serial := by
    cases hnode : s.node <;> cases hnode' : s'.node <;>
      simp_all [Node.face, Node.isDirectory, Node.attributes]
  rw [spotOf, hs']
  exact if_pos (hkept.trans hserial)

/-- A path that does not start at the root has a first name. -/
theorem names_ne_nil {path : Bytes} (h : path ≠ []) (hroot : path.head? ≠ some separator) :
    (Ascii.splitOn separator path).filter (· ≠ []) ≠ [] := by
  cases path with
  | nil => exact absurd rfl h
  | cons b rest =>
    have hb : (b == separator) = false := by simpa using hroot
    rw [Ascii.splitOn, hb]
    cases Ascii.splitOn separator rest <;> simp

/-- A path can still be followed where no directory is lost. -/
theorem locate_of_keeps (h : t.Keeps t') {base : Place} {path : Bytes} {found : Found}
    (hlocate : t.locate base path = .ok found) : ∃ found', t'.locate base path = .ok found' := by
  rw [locate] at hlocate ⊢
  obtain ⟨hempty, hlocate⟩ := ok_of_ite_error hlocate
  obtain ⟨hlong, hlocate⟩ := ok_of_ite_error hlocate
  rw [if_neg hempty, if_neg hlong]
  by_cases hroot : path.head? = some separator
  · rw [if_pos hroot] at hlocate ⊢
    exact walk_of_keeps h hlocate .root .root rfl
  · rw [if_neg hroot] at hlocate ⊢
    obtain ⟨start, hstart, hwalk⟩ := exists_of_bind_ok hlocate
    obtain ⟨hhas, hloc, -⟩ := has_spotOf hstart
    have hwalk : walk start ((Ascii.splitOn separator path).filter (· ≠ [])) = .ok found := hwalk
    have hdirectory : start.node.isDirectory = true := by
      cases hnames : (Ascii.splitOn separator path).filter (· ≠ []) with
      | nil => exact absurd hnames (names_ne_nil (by simpa using hempty) hroot)
      | cons name rest =>
        rw [hnames, walk] at hwalk
        simpa using (ok_of_ite_error hwalk).1
    obtain ⟨start', hstart'⟩ := spotOf_of_keeps h hstart hdirectory
    obtain ⟨hhas', hloc', -⟩ := has_spotOf hstart'
    obtain ⟨found', hfound'⟩ := walk_of_keeps h hwalk hhas hhas' (hloc'.trans hloc.symm)
    exact ⟨found', by rw [hstart']; exact hfound'⟩

end FileTree

end SurfaceGuard
