import SurfaceGuard.Proofs.Baseline.NormalForm
import SurfaceGuard.Proofs.Json.Distinct
import SurfaceGuard.Proofs.Schema.Reader

/-!
# The formats of symbol graphs, baselines and configurations

The three documents that the guard reads, each with its format as data and with the document that
says what was read of it.  The readers follow their formats.
-/

namespace SurfaceGuard

open Format

/-! ## Symbol graphs -/

namespace Graph

/-- The format of a piece of a declaration. -/
def fragmentFormat : Format := .object [("kind", .fault, anyText), ("spelling", .fault, anyText)]

/-- The format of a symbol. -/
def symbolFormat : Format := .object
  [("identifier", .fault, .object [("precise", .fault, anyText)]),
    ("names", .fault, .object [("title", .fault, anyText)]),
    ("kind", .fault, .object [("identifier", .fault, anyText), ("displayName", .allowed, anyText)]),
    ("accessLevel", .allowed, anyText),
    ("declarationFragments", .allowed, .list .any fragmentFormat)]

/-- The format of a symbol graph. -/
def format : Format := .object [("symbols", .fault, .list .any symbolFormat)]

end Graph

/-- The document that says what the piece says. -/
def Fragment.document (f : Fragment) : Json :=
  .object [("kind", .string f.kind), ("spelling", .string f.spelling)]

/-- The document that says what the symbol says. -/
def Symbol.document (s : Symbol) : Json :=
  .object (("identifier", .object [("precise", .string s.identifier)])
    :: ("names", .object [("title", .string s.title)])
    :: ("kind", .object
      (("identifier", .string s.kind) :: optionalMember "displayName" (s.displayName.map .string)))
    :: (optionalMember "accessLevel" (s.accessLevel.map .string)
      ++ optionalMember "declarationFragments"
        (s.fragments.map fun fs => .array (fs.map Fragment.document))))

/-- The document that says what the graph says. -/
def Graph.document (g : Graph) : Json :=
  .object [("symbols", .array (g.symbols.map Symbol.document))]

namespace Graph

open Shape

theorem follows_fragmentShape : fragmentShape.Follows fragmentFormat Fragment.document := by
  refine follows_object fun members => ?_
  simp only [List.flatMap_cons, List.flatMap_nil, List.append_nil]
  refine (((follows_text.required "kind" members).map _).seq
    (follows_text.required "spelling" members)).imp ?_
  rintro _ ⟨_, spelling, ⟨kind, hkind, rfl⟩, hspelling, rfl⟩
  rw [hkind, hspelling]
  rfl

theorem follows_kindShape : kindShape.Follows
    (.object [("identifier", .fault, anyText), ("displayName", .allowed, anyText)])
    fun kind => .object
      (("identifier", .string kind.1) :: optionalMember "displayName" (kind.2.map .string)) := by
  refine follows_object fun members => ?_
  simp only [List.flatMap_cons, List.flatMap_nil, List.append_nil]
  refine (((follows_text.required "identifier" members).map _).seq
    (follows_text.optional "displayName" members)).imp ?_
  rintro _ ⟨_, displayName, ⟨kind, hkind, rfl⟩, hdisplay, rfl⟩
  rw [hkind, hdisplay]
  rfl

/-- An object of which one field is read. -/
theorem follows_onlyText (name : Text) : (object (field name Shape.text)).Follows
    (.object [(name, .fault, anyText)]) fun t => .object [(name, .string t)] := by
  refine follows_object fun members => ?_
  simp only [List.flatMap_cons, List.flatMap_nil, List.append_nil]
  exact (follows_text.required name members).imp fun t ht => by rw [ht]

theorem follows_symbolShape : symbolShape.Follows symbolFormat Symbol.document := by
  refine follows_object fun members => ?_
  simp only [List.flatMap_cons, List.flatMap_nil, List.append_nil, ← List.append_assoc]
  refine ((((((follows_onlyText "precise").required "identifier" members).map _).seq
    ((follows_onlyText "title").required "names" members)).seq
    (follows_kindShape.required "kind" members)).seq
    (follows_text.optional "accessLevel" members)).seq
    (follows_fragmentShape.list.optional "declarationFragments" members) |>.imp ?_
  rintro _ ⟨_, fragments, ⟨_, access, ⟨_, kind, ⟨_, title, ⟨precise, hprecise, rfl⟩, htitle, rfl⟩,
    hkind, rfl⟩, haccess, rfl⟩, hfragments, rfl⟩
  rw [hprecise, htitle, hkind, haccess, hfragments]
  rfl

theorem follows_shape : shape.Follows format document := by
  refine follows_object fun members => ?_
  simp only [List.flatMap_cons, List.flatMap_nil, List.append_nil]
  refine ((follows_symbolShape.list.required "symbols" members).map _).imp ?_
  rintro _ ⟨symbols, hsymbols, rfl⟩
  rw [hsymbols]
  rfl

theorem injective_fragmentDocument : Function.Injective Fragment.document := by
  rintro ⟨kind, spelling⟩ ⟨kind', spelling'⟩ h
  simpa [Fragment.document] using h

theorem injective_symbolDocument : Function.Injective Symbol.document := by
  rintro ⟨identifier, title, kind, displayName, access, fragments⟩
    ⟨identifier', title', kind', displayName', access', fragments'⟩ h
  have hstring : Function.Injective Json.string := fun _ _ => Json.string.inj
  simp only [Symbol.document, Json.object.injEq, List.cons.injEq, Prod.mk.injEq, true_and,
    Json.string.injEq, and_true] at h
  obtain ⟨rfl, rfl, ⟨rfl, hdisplay⟩, hrest⟩ := h
  obtain ⟨haccess, hfragments⟩ := optionalMember_append_inj (by decide) hrest
  have hpieces : Function.Injective fun fs : List Fragment =>
      Json.array (fs.map Fragment.document) :=
    fun _ _ h => injective_fragmentDocument.list_map (Json.array.inj h)
  rw [Option.map_injective hstring (optionalMember_inj hdisplay),
    Option.map_injective hstring haccess, Option.map_injective hpieces hfragments]

theorem injective_document : Function.Injective document := by
  rintro ⟨symbols⟩ ⟨symbols'⟩ h
  simpa [document, injective_symbolDocument.list_map.eq_iff] using h

/-- The reader of symbol graphs follows their format. -/
theorem describes_parse (source : Text) :
    format.Describes (fun graph json => graph.document = json) (.malformedExport source)
      (parse · source) := by
  have hparse : (parse · source) = shape.parse (.malformedExport source) := by
    funext t
    unfold parse Shape.parse
    cases Json.read? t with
    | none => rfl
    | some json =>
      simp only
      cases shape (some json) <;> rfl
  rw [hparse]
  exact Shape.describes_parse (fun _ json _ => follows_shape.present json)
    fun _ _ _ h h' => injective_document (h.trans h'.symm)

end Graph

/-! ## Baselines -/

/-- The format of a baseline file. -/
def Baseline.format : Format :=
  .object [("target", .fault, anyText), ("createdAt", .fault, anyText),
    ("symbols", .fault, .record anyText)]

/-- The document of the given parts of a snapshot. -/
def Snapshot.documentOf (target createdAt : Text) (symbols : List (Text × Text)) : Json :=
  .object [("target", .string target), ("createdAt", .string createdAt),
    ("symbols", .object (symbols.map fun e => (e.1, .string e.2)))]

/-- The document that says what the snapshot says, its symbols in the order of the table. -/
def Snapshot.document (s : Snapshot) : Json :=
  documentOf s.target s.createdAt s.symbols.toList

theorem Snapshot.injective_document : Function.Injective document := by
  rintro ⟨target, createdAt, ⟨entries, hd⟩⟩ ⟨target', createdAt', ⟨entries', hd'⟩⟩ h
  have hpair : Function.Injective fun e : Text × Text => (e.1, Json.string e.2) := by
    rintro ⟨id, signature⟩ ⟨id', signature'⟩ h
    simpa using h
  simpa [document, documentOf, SymbolTable.toList, hpair.list_map.eq_iff] using h

/-- The declared part of a record has each name once, if the record does. -/
theorem Format.nodup_names_of_projection {value : Format} {j : Json} {ms : List (Text × Json)}
    (hj : j.Distinct) (h : (record value).projection j = .object ms) :
    (Members.names ms).Nodup := by
  cases hj with
  | @object members hd _ =>
    cases h
    have hnames : (Members.names ((Members.enumerated members).map fun m =>
        (m.1, value.projection m.2))).Nodup := by
      rw [Members.names_map]
      exact (Members.nodup_names_of_perm (Members.enumerated_perm _)).2 hd
    exact hnames.sublist (List.filter_sublist.map _)
  | _ => cases h

theorem Format.nodup_names_of_fieldProjection {value : Format} {name : Text}
    {members ms : List (Text × Json)} (hmembers : ∀ m ∈ members, m.2.Distinct)
    (h : fieldProjection members (name, .fault, record value) = [(name, .object ms)]) :
    (Members.names ms).Nodup := by
  unfold fieldProjection fieldValue? at h
  cases hget : Members.get? name members with
  | none => simp [hget, optionalMember] at h
  | some j =>
    have hprojection : (record value).projection j = .object ms := by
      simpa [hget, optionalMember] using h
    exact nodup_names_of_projection (hmembers (name, j) (Members.mem_of_get? hget)) hprojection

namespace Baseline

open Shape

theorem gives_shape {json : Json} (hjson : json.Distinct) :
    (shape (some json)).Gives (format.violations json) fun s =>
      s.document = format.projection json := by
  cases hjson with
  | @object members hd hmembers =>
    rw [format, violations_object, projection_object]
    simp only [List.flatMap_cons, List.flatMap_nil, List.append_nil, ← List.append_assoc]
    refine (((follows_text.required "target" members).map _).seq
      (follows_text.required "createdAt" members)).seq
      (follows_text.record.required "symbols" members) |>.imp ?_
    rintro _ ⟨_, symbols, ⟨_, createdAt, ⟨target, htarget, rfl⟩, hcreated, rfl⟩, hsymbols, rfl⟩
    have hnodup : (Members.names symbols).Nodup := by
      rw [← Members.names_map Json.string]
      exact nodup_names_of_fieldProjection hmembers hsymbols
    rw [htarget, hcreated, hsymbols, Snapshot.document, SymbolTable.toList,
      SymbolTable.entries_ofList hnodup]
    rfl
  | _ => exact .invalid (List.cons_ne_nil _ _)

/-- The reader of baselines follows their format. -/
theorem describes_decode (source : Text) :
    format.Describes (fun s json => s.document = json) (.malformedBaseline source)
      (decode · source) := by
  have hdecode : (decode · source) = shape.parse (.malformedBaseline source) := by
    funext t
    unfold decode Shape.parse
    cases Json.read? t with
    | none => rfl
    | some json =>
      simp only
      cases shape (some json) <;> rfl
  rw [hdecode]
  exact Shape.describes_parse (fun _ _ hread => gives_shape (Json.distinct_of_read? hread))
    fun _ _ _ h h' => Snapshot.injective_document (h.trans h'.symm)

end Baseline

/-! ## Configurations -/

namespace Config

/-- The format of a configuration file. -/
def format : Format := .object
  [("targets", .fault, .list .nonempty someText),
    ("mode", .default (.string "semver"), .scalar (.word ["semver", "strict"])),
    ("baselineDir", .default (.string "api-baseline"), someText),
    ("outputDir", .default (.string ".build/apiguard"), someText),
    ("failOnAdditions", .default (.boolean false), .scalar .flag),
    ("exportCommand",
      .default (.array [.string "swift", .string "package", .string "dump-symbol-graph"]),
      .list .nonempty someText),
    ("symbolGraphDir", .default (.string ".build/symbol-graphs"), someText),
    ("exportTimeoutMs", .default (.number (Number.ofNat 600000)), .scalar .positiveWhole)]

/-- The members of the document of a configuration. -/
def members (c : Config) : List (Text × Json) :=
  [("targets", .array (c.targets.map .string)), ("mode", .string c.mode.name),
    ("baselineDir", .string c.baselineDir), ("outputDir", .string c.outputDir),
    ("failOnAdditions", .boolean c.failOnAdditions),
    ("exportCommand", .array (c.exportCommand.map .string)),
    ("symbolGraphDir", .string c.symbolGraphDir), ("exportTimeoutMs", .number c.exportTimeoutMs)]

/-- The document that says what the configuration says. -/
def document (c : Config) : Json := .object c.members

open Shape

theorem follows_shape : shape.Follows format document := by
  have hword : (word Mode.words).Follows (.scalar (.word ["semver", "strict"]))
      fun mode => .string mode.name := follows_word (by decide)
  refine follows_object fun members => ?_
  simp only [List.flatMap_cons, List.flatMap_nil, List.append_nil, ← List.append_assoc]
  refine ((((((((follows_nonemptyText.nonemptyList.required "targets" members).map _).seq
    (hword.withDefault "mode" members .semver)).seq
    (follows_nonemptyText.withDefault "baselineDir" members "api-baseline")).seq
    (follows_nonemptyText.withDefault "outputDir" members ".build/apiguard")).seq
    (follows_flag.withDefault "failOnAdditions" members false)).seq
    (follows_nonemptyText.nonemptyList.withDefault "exportCommand" members defaultCommand)).seq
    (follows_nonemptyText.withDefault "symbolGraphDir" members ".build/symbol-graphs")).seq
    (follows_positiveWhole.withDefault "exportTimeoutMs" members (Number.ofNat 600000)) |>.imp ?_
  rintro _ ⟨_, timeout, ⟨_, graphs, ⟨_, command, ⟨_, additions, ⟨_, output, ⟨_, baseline, ⟨_, mode,
    ⟨targets, htargets, rfl⟩, hmode, rfl⟩, hbaseline, rfl⟩, houtput, rfl⟩, hadditions, rfl⟩,
    hcommand, rfl⟩, hgraphs, rfl⟩, htimeout, rfl⟩
  -- The defaults are the constants of the model, which the format spells out.
  replace hmode : fieldProjection members ("mode", .default (.string "semver"),
    .scalar (.word ["semver", "strict"])) = _ := hmode
  replace hcommand : fieldProjection members ("exportCommand",
    .default (.array [.string "swift", .string "package", .string "dump-symbol-graph"]),
    .list .nonempty someText) = _ := hcommand
  rw [htargets, hmode, hbaseline, houtput, hadditions, hcommand, hgraphs, htimeout]
  rfl

theorem injective_document : Function.Injective document := by
  intro c c' h
  have hstring : Function.Injective Json.string := fun _ _ => Json.string.inj
  have hname : Function.Injective Mode.name := by
    intro m m' h
    cases m <;> cases m' <;> first | rfl | exact absurd h (by decide)
  cases c
  cases c'
  simpa [document, members, hstring.list_map.eq_iff, hname.eq_iff] using h

/-- The reader of configurations follows their format, and resolves the directories. -/
theorem describes_parse (source cwd : Text) :
    format.Describes (fun c json => ∃ read : Config, read.document = json ∧ read.resolved cwd = c)
      (.configInvalid source) (parse · source cwd) := by
  have h : format.Describes (fun c json => c.document = json) (.configInvalid source)
      (shape.parse (.configInvalid source)) :=
    Shape.describes_parse (fun _ json _ => follows_shape.present json)
      fun _ _ _ h h' => injective_document (h.trans h'.symm)
  have hparse : (parse · source cwd)
      = fun t => (shape.parse (.configInvalid source) t).map (resolved cwd) := by
    funext t
    unfold parse Shape.parse
    cases Json.read? t with
    | none => rfl
    | some json =>
      simp only
      cases shape (some json) <;> rfl
  rw [hparse]
  exact h.map (resolved cwd)

end Config

/-! ## All three -/

/-- The readers of symbol graphs, baselines and configurations accept exactly their formats, give
back the declared part of what they accept, and fail with the start of the complete list of
violations; and the null value conforms to no format, so it stands for no absent field. -/
theorem documents_follow_formats (source cwd : Text) :
    Graph.format.Describes (fun graph json => graph.document = json) (.malformedExport source)
        (Graph.parse · source)
      ∧ Baseline.format.Describes (fun s json => s.document = json) (.malformedBaseline source)
        (Baseline.decode · source)
      ∧ Config.format.Describes
        (fun c json => ∃ read : Config, read.document = json ∧ read.resolved cwd = c)
        (.configInvalid source) (Config.parse · source cwd)
      ∧ ∀ f : Format, ¬ f.Conforms .null :=
  ⟨Graph.describes_parse source, Baseline.describes_decode source,
    Config.describes_parse source cwd, not_conforms_null⟩

/-- Two fields are at fault.  The violations come in the order of the format and not of the
document. -/
example : Issue.report (Config.format.violations (.object
    [("baselineDir", .null), ("other", .null), ("targets", .null)])) =
    ["targets: Expected array, received null", "baselineDir: Expected string, received null"] := by
  decide +kernel

end SurfaceGuard
