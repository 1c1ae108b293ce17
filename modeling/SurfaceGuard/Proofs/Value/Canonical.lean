import SurfaceGuard.Proofs.Json.RoundTrip
import SurfaceGuard.Proofs.Text.Utf8
import SurfaceGuard.Proofs.Value.Alike
import SurfaceGuard.Value.Canonical

/-!
# The canonical text decides what a value is

The canonical JSON value of a supported value exists (`canonical_eq_ok`), is written
without loss, and has the numbers, items and members of the value
(`readsAs_canonicalJson`); the same values have the same one
(`canonicalJson_eq_of_same`).  With the round trip of JSON, the canonical text gives the
value back, and the canonical bytes are equal for the same values only.
-/

namespace SurfaceGuard.Value

/-! ## Lists and members -/

theorem ofJsonItems_eq_map (js : List Json) : ofJsonItems js = js.map ofJson := by
  induction js with
  | nil => rfl
  | cons j js ih => rw [ofJsonItems, ih, List.map_cons]

theorem ofJsonMembers_eq_map (ms : List (Text × Json)) :
    ofJsonMembers ms = ms.map fun m => (m.1, ofJson m.2) := by
  induction ms with
  | nil => rfl
  | cons m ms ih => rw [ofJsonMembers, ih, List.map_cons]

theorem canonicalMembers_eq_map (ms : List (Text × Value)) :
    canonicalMembers ms = ms.map fun m => (m.1, canonical m.2) := by
  induction ms with
  | nil => rfl
  | cons m ms ih => rw [canonicalMembers, ih, List.map_cons]

/-- The items of a list are accepted together if each one is. -/
theorem canonicalItems_of_map {vs : List Value} {js : List Json}
    (h : vs.map canonical = js.map .ok) (i : Nat) : canonicalItems i vs = .ok js := by
  induction vs generalizing js i with
  | nil =>
    cases js with
    | nil => rfl
    | cons j js => simp at h
  | cons v vs ih =>
    cases js with
    | nil => simp at h
    | cons j js =>
      rw [List.map_cons, List.map_cons, List.cons.injEq] at h
      rw [canonicalItems, h.1, ih h.2]
      rfl

/-- The members of an object are accepted together if each one is. -/
theorem allMembers_of_map (js : List (Text × Json)) :
    allMembers (js.map fun m => (m.1, .ok m.2)) = .ok js := by
  induction js with
  | nil => rfl
  | cons j js ih =>
    rw [List.map_cons, allMembers, ih]
    rfl

theorem canonical_number (negative : Bool) (k : Fin Number.limit) :
    canonical (.number (.finite negative k))
      = .ok (.number (Number.unsignedZero (.finite negative k))) := by
  rw [Number.unsignedZero_finite]
  rfl

/-! ## The canonical JSON value -/

/-- The canonical JSON value, if there is one. -/
def canonicalJson (v : Value) : Json := v.canonical.toOption.getD .null

theorem canonicalJson_eq {v : Value} {j : Json} (h : v.canonical = .ok j) :
    v.canonicalJson = j := by
  rw [canonicalJson, h]
  rfl

theorem canonical_list {items : List Value}
    (h : ∀ v ∈ items, canonical v = .ok (canonicalJson v)) :
    canonical (.list items) = .ok (.array (items.map canonicalJson)) := by
  have hitems : items.map canonical = (items.map canonicalJson).map .ok := by
    rw [List.map_map]
    exact List.map_congr_left h
  rw [canonical, canonicalItems_of_map hitems]
  rfl

theorem canonical_object (p : Ancestry) {ms : List (Text × Value)}
    (h : ∀ m ∈ ms, canonical m.2 = .ok (canonicalJson m.2)) :
    canonical (.object p ms)
      = .ok (.object (Members.sort (ms.map fun m => (m.1, canonicalJson m.2)))) := by
  have hms : ms.map (fun m => (m.1, canonical m.2))
      = (ms.map fun m => (m.1, canonicalJson m.2)).map fun m => (m.1, .ok m.2) := by
    rw [List.map_map]
    refine List.map_congr_left fun m hm => ?_
    rw [h m hm]
    rfl
  rw [canonical, canonicalMembers_eq_map, hms, ← Members.sort_map, allMembers_of_map]
  rfl

/-- A supported value is accepted. -/
theorem canonical_eq_ok {v : Value} (hv : v.Supported) : v.canonical = .ok v.canonicalJson := by
  induction hv with
  | null => rw [canonicalJson_eq rfl]; rfl
  | boolean b => rw [canonicalJson_eq rfl]; rfl
  | number negative k => rw [canonicalJson_eq rfl]; rfl
  | string s => rw [canonicalJson_eq rfl]; rfl
  | list h ih => rw [canonicalJson_eq (canonical_list ih), canonical_list ih]
  | object p hd h ih => rw [canonicalJson_eq (canonical_object p ih), canonical_object p ih]

theorem canonicalJson_list {items : List Value} (h : ∀ v ∈ items, v.Supported) :
    canonicalJson (.list items) = .array (items.map canonicalJson) :=
  canonicalJson_eq (canonical_list fun v hv => canonical_eq_ok (h v hv))

theorem canonicalJson_object (p : Ancestry) {ms : List (Text × Value)}
    (h : ∀ m ∈ ms, m.2.Supported) :
    canonicalJson (.object p ms)
      = .object (Members.sort (ms.map fun m => (m.1, canonicalJson m.2))) :=
  canonicalJson_eq (canonical_object p fun m hm => canonical_eq_ok (h m hm))

/-- Writing the canonical JSON value of a supported value loses nothing. -/
theorem lossless_canonicalJson {v : Value} (hv : v.Supported) : v.canonicalJson.Lossless := by
  induction hv with
  | null => exact .null
  | boolean b => exact .boolean b
  | number negative k => exact .number (by cases negative <;> simp)
  | string s => exact .string s
  | list h ih =>
    rw [canonicalJson_list h]
    refine .array fun j hj => ?_
    obtain ⟨v, hv, rfl⟩ := List.mem_map.1 hj
    exact ih v hv
  | object p hd h ih =>
    rw [canonicalJson_object p h]
    refine .object (Members.nodup_names_sort ?_) fun m hm => ?_
    · rwa [Members.names_map]
    · obtain ⟨n, hn, rfl⟩ := List.mem_map.1 ((Members.sort_perm _).mem_iff.1 hm)
      exact ih n hn

/-- The canonical JSON value has the numbers, items and members of a supported value. -/
theorem readsAs_canonicalJson {v : Value} (hv : v.Supported) :
    v.ReadsAs (ofJson v.canonicalJson) := by
  induction hv with
  | null => exact .null
  | boolean b => exact .boolean b
  | number negative k => exact .number (Number.unsignedZero_finite negative k).symm
  | string s => exact .string s
  | list h ih =>
    rw [canonicalJson_list h, ofJson, ofJsonItems_eq_map, List.map_map]
    refine .list (List.length_map _).symm fun i x y hx hy => ?_
    rw [List.getElem?_map, hx, Option.map_some, Option.some.injEq] at hy
    subst hy
    exact ih x (List.mem_of_getElem? hx)
  | @object p ms hd h ih =>
    have hget : ∀ name, Members.get? name (ofJsonMembers
        (Members.sort (ms.map fun m => (m.1, canonicalJson m.2))))
          = (Members.get? name ms).map fun v => ofJson (canonicalJson v) := by
      intro name
      rw [ofJsonMembers_eq_map, Members.get?_map, Members.get?_sort (by rwa [Members.names_map]),
        Members.get?_map, Option.map_map]
      rfl
    rw [canonicalJson_object p h, ofJson]
    refine .object p .plain (fun name => ?_) fun name v w hv hw => ?_
    · rw [hget, Option.isSome_map]
    · rw [hget, hv, Option.map_some, Option.some.injEq] at hw
      subst hw
      exact ih (name, v) (Members.mem_of_get? hv)

/-- The same values have the same canonical JSON value. -/
theorem canonicalJson_eq_of_same {v w : Value} (hv : v.Supported) (hw : w.Supported)
    (h : Same v w) : v.canonicalJson = w.canonicalJson := by
  rw [Same] at h
  induction h with
  | null => rfl
  | boolean b => rfl
  | number hr =>
    cases hv with
    | number negative k =>
      cases hw with
      | number negative' k' =>
        rw [canonicalJson_eq (canonical_number negative k),
          canonicalJson_eq (canonical_number negative' k'), hr]
  | string s => rfl
  | @list xs ys hl h ih =>
    cases hv with
    | list hxs =>
      cases hw with
      | list hys =>
        rw [canonicalJson_list hxs, canonicalJson_list hys]
        refine congrArg Json.array (List.ext_getElem (by simpa using hl) fun i hi hi' => ?_)
        rw [List.length_map] at hi hi'
        rw [List.getElem_map, List.getElem_map]
        exact ih i xs[i] ys[i] (List.getElem?_eq_getElem hi) (List.getElem?_eq_getElem hi')
          (hxs _ (List.getElem_mem hi)) (hys _ (List.getElem_mem hi'))
  | @object p q ms ns hn h ih =>
    cases hv with
    | object _ hdm hms =>
      cases hw with
      | object _ hdn hns =>
        rw [canonicalJson_object p hms, canonicalJson_object q hns]
        refine congrArg Json.object (Members.sort_eq_sort ?_ ?_ fun name => ?_)
        · rwa [Members.names_map]
        · rwa [Members.names_map]
        · rw [Members.get?_map, Members.get?_map]
          have hname := hn name
          cases hm : Members.get? name ms with
          | none =>
            rw [hm, Option.isSome_none, eq_comm, Option.isSome_eq_false_iff,
              Option.isNone_iff_eq_none] at hname
            rw [hname]
          | some v =>
            rw [hm, Option.isSome_some, eq_comm, Option.isSome_iff_exists] at hname
            obtain ⟨w, hw⟩ := hname
            rw [hw, Option.map_some, Option.map_some, ih name v w hm hw
              (hms (name, v) (Members.mem_of_get? hm)) (hns (name, w) (Members.mem_of_get? hw))]

/-! ## Reading back -/

theorem canonicalText_eq {v : Value} (hv : v.Supported) :
    v.canonicalText = .ok v.canonicalJson.write := by
  rw [canonicalText, canonical_eq_ok hv]
  rfl

theorem canonicalBytes_eq {v : Value} (hv : v.Supported) :
    v.canonicalBytes = .ok (Utf8.encode v.canonicalJson.write) := by
  rw [canonicalBytes, canonicalText_eq hv]
  rfl

/-- Different JSON values have different bytes, whatever well-formed text follows them. -/
theorem eq_of_encode_write_eq {j k : Json} (hj : j.Lossless) (hk : k.Lossless) {t : Text}
    (ht : Text.isWellFormed t = true)
    (h : Utf8.encode (j.write ++ t) = Utf8.encode (k.write ++ t)) : j = k := by
  have hdec := congrArg Utf8.decode h
  rw [Utf8.decode_encode_of_isWellFormed (Text.isWellFormed_append (Json.isWellFormed_write hj) ht),
    Utf8.decode_encode_of_isWellFormed (Text.isWellFormed_append (Json.isWellFormed_write hk) ht)]
    at hdec
  have hread := congrArg Json.read? (List.append_cancel_right hdec)
  rwa [Json.read?_write hj, Json.read?_write hk, Option.some.injEq] at hread

/-- Equal canonical bytes stand for the same value, and only for the same one. -/
theorem encode_write_eq_iff_same {v w : Value} (hv : v.Supported) (hw : w.Supported) :
    Utf8.encode v.canonicalJson.write = Utf8.encode w.canonicalJson.write ↔ Same v w := by
  constructor
  · intro h
    have hj : v.canonicalJson = w.canonicalJson :=
      eq_of_encode_write_eq (lossless_canonicalJson hv) (lossless_canonicalJson hw)
        Text.isWellFormed_nil (by rwa [List.append_nil, List.append_nil])
    exact Same.of_readsAs (readsAs_canonicalJson hv) (hj ▸ readsAs_canonicalJson hw)
  · intro h
    rw [canonicalJson_eq_of_same hv hw h]

/-- A JSON value that is written without loss has no name twice and finite numbers only. -/
theorem supported_ofJson {j : Json} (hj : j.Lossless) : (ofJson j).Supported := by
  induction hj with
  | null => exact .null
  | boolean b => exact .boolean b
  | number h => exact .number _ _
  | string s => exact .string s
  | array h ih =>
    rw [ofJson, ofJsonItems_eq_map]
    refine .list fun v hv => ?_
    obtain ⟨j, hj, rfl⟩ := List.mem_map.1 hv
    exact ih j hj
  | object hd h ih =>
    rw [ofJson, ofJsonMembers_eq_map]
    refine .object .plain (by rwa [Members.names_map]) fun m hm => ?_
    obtain ⟨n, hn, rfl⟩ := List.mem_map.1 hm
    exact ih n hn

/-- The canonical text of a supported value exists, is a JSON text, and reads as the value. -/
theorem canonicalText_reads_back {v : Value} (hv : v.Supported) :
    ∃ text json, v.canonicalText = .ok text ∧ Json.read? text = some json
      ∧ (ofJson json).Supported ∧ v.ReadsAs (ofJson json) :=
  ⟨v.canonicalJson.write, v.canonicalJson, canonicalText_eq hv,
    Json.read?_write (lossless_canonicalJson hv), supported_ofJson (lossless_canonicalJson hv),
    readsAs_canonicalJson hv⟩

/-- A list in an object without ancestry, under the name that other objects inherit by: half of
a surrogate pair, and zero with a sign. -/
theorem canonicalText_reads_back_nested :
    let v : Value := .object .none [("__proto__", .list [.string [0xD83D], .number (.zero true)])]
    v.Supported ∧ ∃ text json, v.canonicalText = .ok text ∧ Json.read? text = some json
      ∧ (ofJson json).Supported ∧ v.ReadsAs (ofJson json) := by
  intro v
  have hlist : (Value.list [.string [0xD83D], .number (.zero true)]).Supported := by
    refine .list fun x hx => ?_
    rcases List.mem_pair.1 hx with rfl | rfl
    · exact .string _
    · exact .number true _
  have hv : v.Supported := by
    refine .object .none (List.nodup_singleton _) fun m hm => ?_
    rw [List.mem_singleton.1 hm]
    exact hlist
  exact ⟨hv, canonicalText_reads_back hv⟩

end SurfaceGuard.Value
