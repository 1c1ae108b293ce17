import SurfaceGuard.Proofs.Host.Destination
import SurfaceGuard.Proofs.Schema.Documents
import SurfaceGuard.Proofs.Schema.Projection
import SurfaceGuard.Proofs.Value.Canonical

/-!
# Resolved configurations

The directories of a configuration that was read are resolved (`Path.IsResolved`): absolute, without
a segment that a path does not need.  A resolved path is read as itself from every directory
(`Path.resolve_eq_self`).  So the canonical text of the configuration, with its directories spelled
out and no default left open, is read as the same configuration wherever that is done.
-/

namespace SurfaceGuard

/-! ## Resolved paths -/

namespace Path

/-- The path is absolute; it is the root, or every segment of it is a name and no separator follows
them. -/
structure IsResolved (p : Text) : Prop where
  absolute : isAbsolute p = true
  normal : p = [separator] ∨ ((∀ s ∈ (segments p).tail, IsName s) ∧ p.getLast? ≠ some separator)

variable {base p : Text} {names : List Text}

theorem segments_root_cons (hnames : ∀ s ∈ names, IsName s) (hne : names ≠ []) :
    segments (separator :: unsegments names) = [] :: names := by
  rw [segments_cons_separator, segments_unsegments hne fun s hs => (hnames s hs).no_separator]

/-- What a path below an absolute one is resolved to. -/
theorem resolve_eq (hbase : isAbsolute base = true) (p : Text) :
    ∃ names, (∀ s ∈ names, IsName s) ∧ resolve base p = separator :: unsegments names := by
  refine ⟨_, ?_, rfl⟩
  refine isName_of_mem_reduceFrom ?_ (List.forall_mem_nil _) fun _ => not_mem_of_mem_segments
  split
  · next hp => exact hp
  · cases base with
    | nil => cases hbase
    | cons u base => exact hbase

theorem isResolved_cons (hnames : ∀ s ∈ names, IsName s) :
    IsResolved (separator :: unsegments names) := by
  refine ⟨rfl, ?_⟩
  by_cases hne : names = []
  · exact Or.inl (by rw [hne]; rfl)
  · have hsegments := segments_root_cons hnames hne
    refine Or.inr ⟨by rw [hsegments]; exact hnames, fun hlast => ?_⟩
    obtain ⟨front, hfront⟩ := List.getLast?_eq_some_iff.1 hlast
    obtain ⟨before, last, rfl⟩ : ∃ before last, names = before ++ [last] :=
      ⟨_, _, (List.dropLast_concat_getLast hne).symm⟩
    -- A separator at the end leaves an empty segment behind it.
    rw [hfront, segments_append_cons, ← List.cons_append] at hsegments
    have hempty : [[]] = [last] := (List.append_inj' hsegments rfl).2
    exact (hnames last List.mem_concat_self).ne_nil (List.singleton_inj.1 hempty).symm

/-- A resolved path is read as itself, from every directory. -/
theorem resolve_eq_self (hp : IsResolved p) (base : Text) : resolve base p = p := by
  obtain ⟨q, rfl⟩ : ∃ q, p = separator :: q := by
    cases p with
    | nil => cases hp.absolute
    | cons u q =>
      have hu : u = separator := by simpa [isAbsolute] using hp.absolute
      exact ⟨q, by rw [hu]⟩
  have hresolve : resolve base (separator :: q)
      = separator :: unsegments (reduceFrom true [] ([] :: segments q)) := by
    rw [← segments_cons_separator]
    rfl
  rw [hresolve]
  rcases hp.normal with hroot | ⟨hnames, -⟩
  · rw [(List.cons.inj hroot).2]
    decide
  · rw [segments_cons_separator, List.tail_cons] at hnames
    have hreduce := reduceFrom_append hnames true [] [[]]
    have hq : unsegments (segments q) = q := segments_injective
      (segments_unsegments (segments_ne_nil q) fun s hs => (hnames s hs).no_separator)
    rw [List.singleton_append] at hreduce
    rw [hreduce, show reduceFrom true [] [[]] = [] from by decide, List.nil_append, hq]

/-- Resolving from an absolute directory gives a resolved path. -/
theorem isResolved_resolve (hbase : isAbsolute base = true) (p : Text) :
    IsResolved (resolve base p) := by
  obtain ⟨names, hnames, h⟩ := resolve_eq hbase p
  rw [h]
  exact isResolved_cons hnames

theorem IsResolved.ne_nil (hp : IsResolved p) : p ≠ [] := by
  rintro rfl
  cases hp.absolute

end Path

/-! ## Configurations that are written -/

namespace Config

open Format Shape

theorem sound_format : format.Sound := by
  have htext : someText.Sound := .scalar _
  have htexts : (Format.list .nonempty someText).Sound := .list htext
  refine .object (by decide) ?_ ?_
  · intro field hfield
    simp only [List.mem_cons, List.not_mem_nil, or_false] at hfield
    rcases hfield with rfl | rfl | rfl | rfl | rfl | rfl | rfl | rfl
    all_goals first | exact htexts | exact .scalar _
  · intro field hfield v hv
    simp only [List.mem_cons, List.not_mem_nil, or_false] at hfield
    rcases hfield with rfl | rfl | rfl | rfl | rfl | rfl | rfl | rfl
    all_goals cases hv
    all_goals exact violations_eq_nil_iff.1 (by decide +kernel)

variable {c : Config}

theorem conforms_document_iff : format.Conforms c.document ↔
    (c.targets ≠ [] ∧ ∀ t ∈ c.targets, t ≠ []) ∧ c.baselineDir ≠ [] ∧ c.outputDir ≠ []
      ∧ (c.exportCommand ≠ [] ∧ ∀ t ∈ c.exportCommand, t ≠ []) ∧ c.symbolGraphDir ≠ []
      ∧ ∃ n, 0 < n ∧ c.exportTimeoutMs.Is n := by
  have hmode : (scalar (.word ["semver", "strict"])).Conforms (.string c.mode.name) := by
    cases c.mode <;> exact .scalar (.word (by decide))
  have hflag : (scalar .flag).Conforms (.boolean c.failOnAdditions) := .scalar (.flag _)
  simp +decide [format, document, members, conforms_object_iff, Members.get?_cons,
    conforms_someText_iff, conforms_texts_iff, conforms_positiveWhole_iff, hmode, hflag]

theorem projection_document (c : Config) : format.projection c.document = c.document := by
  rw [format, document, members, projection_object]
  simp +decide [fieldProjection, fieldValue?, optionalMember, Members.get?_cons, projection]

theorem nodup_members (c : Config) : (Members.names c.members).Nodup := by
  have hnames : (["targets", "mode", "baselineDir", "outputDir", "failOnAdditions", "exportCommand",
    "symbolGraphDir", "exportTimeoutMs"] : List Text).Nodup := by decide
  exact hnames

theorem lossless_document (h : format.Conforms c.document) : c.document.Lossless := by
  obtain ⟨-, -, -, -, -, n, -, k, htimeout, -⟩ := conforms_document_iff.1 h
  have htexts : ∀ ts : List Text, (Json.array (ts.map .string)).Lossless := by
    refine fun ts => .array fun j hj => ?_
    obtain ⟨t, -, rfl⟩ := List.mem_map.1 hj
    exact .string t
  refine .object (nodup_members c) ?_
  simp only [members, List.forall_mem_cons]
  refine ⟨htexts _, .string _, .string _, .string _, .boolean _, htexts _, .string _, ?_,
    List.forall_mem_nil _⟩
  rw [htimeout]
  exact .number rfl

theorem canonicalJson_texts (ts : List Text) :
    (Value.ofJson (.array (ts.map .string))).canonicalJson = .array (ts.map .string) := by
  have hsupported : ∀ v ∈ Value.ofJsonItems (ts.map .string), v.Supported := by
    intro v hv
    rw [Value.ofJsonItems_eq_map, List.map_map] at hv
    obtain ⟨t, -, rfl⟩ := List.mem_map.1 hv
    exact .string t
  rw [Value.ofJson, Value.canonicalJson_list hsupported, Value.ofJsonItems_eq_map, List.map_map,
    List.map_map]
  rfl

/-- The canonical JSON value of a configuration has the members in ascending order; nothing of
their values changes. -/
theorem canonicalJson_document (h : format.Conforms c.document) :
    (Value.ofJson c.document).canonicalJson = .object (Members.sort c.members) := by
  obtain ⟨-, -, -, -, -, n, -, k, htimeout, -⟩ := conforms_document_iff.1 h
  have hmembers : ∀ m ∈ c.members, (Value.ofJson m.2).canonicalJson = m.2 := by
    simp only [members, List.forall_mem_cons]
    refine ⟨canonicalJson_texts _, rfl, rfl, rfl, rfl, canonicalJson_texts _, rfl, ?_,
      List.forall_mem_nil _⟩
    rw [htimeout]
    rfl
  have hsupported := Value.supported_ofJson (lossless_document h)
  rw [document, Value.ofJson, Value.ofJsonMembers_eq_map] at hsupported ⊢
  cases hsupported with
  | object _ _ hms =>
    have hid : c.members.map
        ((fun m => (m.1, m.2.canonicalJson)) ∘ fun m => (m.1, Value.ofJson m.2)) = c.members := by
      conv_rhs => rw [← List.map_id c.members]
      exact List.map_congr_left fun m hm => Prod.ext rfl (hmembers m hm)
    rw [Value.canonicalJson_object _ hms, List.map_map, hid]

/-! ## Read back -/

/-- A configuration with resolved directories is read back from its canonical text. -/
theorem parse_canonicalText (h : format.Conforms c.document)
    (hdirs : ∀ dir ∈ [c.baselineDir, c.outputDir, c.symbolGraphDir], Path.IsResolved dir) :
    ∃ t, (Value.ofJson c.document).canonicalText = .ok t
      ∧ ∀ source cwd, parse t source cwd = .ok c := by
  have hlossless := lossless_document h
  have hsupported := Value.supported_ofJson hlossless
  refine ⟨_, Value.canonicalText_eq hsupported, fun source cwd => ?_⟩
  have hread := Json.read?_write (Value.lossless_canonicalJson hsupported)
  rw [canonicalJson_document h] at hread ⊢
  have halike : format.likeness c.document (.object (Members.sort c.members)) :=
    likeness_of_get?_eq fun field _ => (Members.get?_sort (nodup_members c) field.1).symm
  obtain ⟨hlisting, hprojection⟩ := eq_of_likeness halike
  have hconforms : format.Conforms (.object (Members.sort c.members)) := by
    rw [← violations_eq_nil_iff] at h ⊢
    rwa [violations, ← hlisting]
  refine ((describes_parse source cwd).ok_iff _ c).2 ⟨_, hread, hconforms, c, ?_, ?_⟩
  · rw [← hprojection, projection_document]
  · simp only [List.forall_mem_cons] at hdirs
    obtain ⟨hbaseline, houtput, hgraphs, -⟩ := hdirs
    rw [resolved, Path.resolve_eq_self hbaseline, Path.resolve_eq_self houtput,
      Path.resolve_eq_self hgraphs]

/-- What is read conforms when it is written, with the directories resolved. -/
theorem conforms_of_parse {text source cwd : Text} (hcwd : Path.isAbsolute cwd = true)
    (h : parse text source cwd = .ok c) : format.Conforms c.document
      ∧ ∀ dir ∈ [c.baselineDir, c.outputDir, c.symbolGraphDir], Path.IsResolved dir := by
  obtain ⟨json, -, hconforms, read, hread, rfl⟩ := ((describes_parse source cwd).ok_iff text c).1 h
  have hdirs : ∀ dir ∈ [(read.resolved cwd).baselineDir, (read.resolved cwd).outputDir,
      (read.resolved cwd).symbolGraphDir], Path.IsResolved dir := by
    simp only [List.forall_mem_cons, resolved]
    exact ⟨Path.isResolved_resolve hcwd _, Path.isResolved_resolve hcwd _,
      Path.isResolved_resolve hcwd _, List.forall_mem_nil _⟩
  refine ⟨?_, hdirs⟩
  have hpart := conforms_projection sound_format hconforms
  rw [← hread, conforms_document_iff] at hpart
  obtain ⟨htargets, -, -, hcommand, -, htimeout⟩ := hpart
  simp only [List.forall_mem_cons] at hdirs
  obtain ⟨hbaseline, houtput, hgraphs, -⟩ := hdirs
  exact conforms_document_iff.2
    ⟨htargets, hbaseline.ne_nil, houtput.ne_nil, hcommand, hgraphs.ne_nil, htimeout⟩

/-- A configuration that was read is a fixed point: its directories are resolved, and its canonical
text is read as the same configuration, whatever the source and the directory. -/
theorem resolved_config_is_fixed {text source cwd : Text} (hcwd : Path.isAbsolute cwd = true)
    (h : parse text source cwd = .ok c) :
    (∀ dir ∈ [c.baselineDir, c.outputDir, c.symbolGraphDir], Path.IsResolved dir)
      ∧ ∃ t, (Value.ofJson c.document).canonicalText = .ok t
        ∧ ∀ source' cwd', parse t source' cwd' = .ok c := by
  obtain ⟨hconforms, hdirs⟩ := conforms_of_parse hcwd h
  exact ⟨hdirs, parse_canonicalText hconforms hdirs⟩

/-- Directories with detours, one that climbs above the root, and one that is the default. -/
theorem resolved_config_is_fixed_of_detours :
    let text : Text := "\x7b\"baselineDir\":\"../b//./c/\",\"outputDir\":\"../../../\","
      ++ "\"other\":null,\"targets\":[\"A\"]\x7d"
    let c : Config :=
      { targets := ["A"], mode := .semver, baselineDir := "/w/b/c", outputDir := "/"
        failOnAdditions := false, exportCommand := defaultCommand
        symbolGraphDir := "/w/x/.build/symbol-graphs"
        exportTimeoutMs := Number.ofNat 600000 }
    Path.isAbsolute "/w/x" = true ∧ parse text "config" "/w/x" = .ok c
      ∧ (∀ dir ∈ [c.baselineDir, c.outputDir, c.symbolGraphDir], Path.IsResolved dir)
      ∧ ∃ t, (Value.ofJson c.document).canonicalText = .ok t
        ∧ ∀ source' cwd', parse t source' cwd' = .ok c := by
  intro text c
  have hcwd : Path.isAbsolute "/w/x" = true := by decide
  have hparse : parse text "config" "/w/x" = .ok c := eq_ok_of_toOption (by decide +kernel)
  exact ⟨hcwd, hparse, resolved_config_is_fixed hcwd hparse⟩

end Config

end SurfaceGuard
