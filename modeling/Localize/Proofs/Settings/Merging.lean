import Localize.Proofs.Value.Keys
import Localize.Settings.Document

/-!
# Documents laid over documents, path by path

What a document says is told by paths of keys (`valueAt?`).  So is what comes of laying one document
over another: where the upper one has a leaf, a value that is no mapping, the leaf stands; where it
has a mapping, there is a mapping; and where it has nothing, the lower one shows through, unless a
leaf stands further up (`valueAt?_merge_of_leaf`, `exists_map_of_merge`, `valueAt?_merge_of_none`).

The documents that are laid over others have each key once, and leaves are all that they have beside
mappings (`Nested`); those that a run lays over its file have texts for keys (`Layer`).  The lower
document may be any.
-/

set_option autoImplicit false

namespace Localize
namespace Settings

/-- The value at a path of keys, which leads from a value inwards. -/
def valueAt? : List Value → Value → Option Value
  | [], v => some v
  | key :: rest, v => v.entries?.bind fun doc => (find? key doc).bind (valueAt? rest)

variable {doc base upper : Document} {k key v w : Value} {name : Text} {path rest : List Value}

/-! ## Keys -/

theorem sameKey_text_iff : key.sameKey (.text name) = true ↔ key = .text name := by
  rw [Value.sameKey_iff_right (by rfl)]
  cases key <;> simp [Value.form?]

theorem text_sameKey_iff : (Value.text name).sameKey key = true ↔ key = .text name := by
  rw [Value.sameKey_iff_left (by rfl)]
  cases key <;> simp [Value.form?]

/-- What is put at a key is found there, and nowhere else. -/
theorem find?_put (hk : k.IsKey) (doc : Document) : find? key (Value.put k v doc) =
    if k.sameKey key then some v else find? key doc := by
  induction doc with
  | nil => rfl
  | cons e doc ih =>
    obtain ⟨l, w⟩ := e
    by_cases hl : l.sameKey k
    · rw [Value.put, if_pos hl, find?, find?, hk.sameKey_congr hl]
      split <;> rfl
    · rw [Value.put, if_neg hl, find?, ih, find?]
      by_cases hkey : k.sameKey key
      · rw [if_pos hkey, if_pos hkey, if_neg]
        exact fun hlkey => hl (hk.sameKey_of_both hlkey hkey)
      · rw [if_neg hkey, if_neg hkey]

/-- Keys that are one find the same. -/
theorem find?_congr (hk : k.IsKey) (h : k.sameKey key = true) (doc : Document) :
    find? key doc = find? k doc := by
  induction doc with
  | nil => rfl
  | cons e doc ih => rw [find?, find?, ih, hk.sameKey_congr_right h]

/-- What is found at a key is there to be put. -/
theorem put_self (h : find? k doc = some v) : Value.put k v doc = doc := by
  induction doc with
  | nil => cases h
  | cons e doc ih =>
    obtain ⟨l, w⟩ := e
    rw [find?] at h
    rw [Value.put]
    split
    · rename_i hl
      rw [if_pos hl] at h
      cases h
      rfl
    · rename_i hl
      rw [if_neg hl] at h
      rw [ih h]

theorem put_of_none (h : find? k doc = none) : Value.put k v doc = doc ++ [(k, v)] := by
  induction doc with
  | nil => rfl
  | cons e doc ih =>
    obtain ⟨l, w⟩ := e
    rw [find?] at h
    split at h
    · cases h
    · rename_i hl
      rw [Value.put, if_neg hl, ih h, List.cons_append]

theorem mem_of_find? (h : find? key doc = some v) : ∃ k, (k, v) ∈ doc := by
  induction doc with
  | nil => cases h
  | cons e doc ih =>
    obtain ⟨k, w⟩ := e
    rw [find?] at h
    split at h
    · cases h
      exact ⟨k, List.mem_cons_self⟩
    · obtain ⟨k', hmem⟩ := ih h
      exact ⟨k', List.mem_cons_of_mem _ hmem⟩

theorem find?_eq_none_iff :
    find? key doc = none ↔ ∀ k ∈ doc.map Prod.fst, k.sameKey key = false := by
  induction doc with
  | nil => simp [find?]
  | cons e doc ih =>
    rw [find?, List.map_cons, List.forall_mem_cons, ← ih]
    by_cases h : e.1.sameKey key <;> simp [h]

/-! ## Nested documents -/

/-- Each key of a document may be one, and no two of them are the same. -/
structure Keyed (doc : Document) : Prop where
  keys : ∀ key ∈ doc.map Prod.fst, key.IsKey
  apart : (doc.map Prod.fst).Pairwise fun k l => k.sameKey l = false

/-- A document inside of documents: mappings lead to values that are none. -/
inductive Nested : Value → Prop
  | leaf {v : Value} (h : v.entries? = none) : Nested v
  | document {doc : Document} (keyed : Keyed doc) (inner : ∀ e ∈ doc, Nested e.2) :
      Nested (.map doc)

theorem Nested.keyed (h : Nested (.map doc)) : Keyed doc := by
  cases h with
  | leaf h => cases h
  | document keyed _ => exact keyed

theorem Nested.inner (h : Nested (.map doc)) : ∀ e ∈ doc, Nested e.2 := by
  cases h with
  | leaf h => cases h
  | document _ inner => exact inner

theorem Nested.of_find? (h : Nested (.map doc)) (hv : find? key doc = some v) : Nested v :=
  let ⟨_, hmem⟩ := mem_of_find? hv
  h.inner _ hmem

/-! ## Layers -/

/-- The keys of a document are texts, and no two of them are the same. -/
structure Named (doc : Document) : Prop where
  texts : ∀ key ∈ doc.map Prod.fst, ∃ name, key = .text name
  nodup : (doc.map Prod.fst).Nodup

/-- A value that is laid over others: texts lead through mappings to values that are none. -/
inductive Layer : Value → Prop
  | leaf {v : Value} (h : v.entries? = none) : Layer v
  | document {doc : Document} (named : Named doc) (inner : ∀ e ∈ doc, Layer e.2) :
      Layer (.map doc)

theorem Layer.named (h : Layer (.map doc)) : Named doc := by
  cases h with
  | leaf h => cases h
  | document named _ => exact named

theorem Layer.inner (h : Layer (.map doc)) : ∀ e ∈ doc, Layer e.2 := by
  cases h with
  | leaf h => cases h
  | document _ inner => exact inner

theorem Layer.of_find? (h : Layer (.map doc)) (hv : find? key doc = some v) : Layer v :=
  let ⟨_, hmem⟩ := mem_of_find? hv
  h.inner _ hmem

theorem Named.keyed (h : Named doc) : Keyed doc where
  keys key hkey := by
    obtain ⟨name, rfl⟩ := h.texts key hkey
    exact Value.isKey_text name
  apart := h.nodup.imp_of_mem fun {key other} _ hother hne => by
    obtain ⟨name, rfl⟩ := h.texts other hother
    exact Bool.eq_false_iff.2 (mt sameKey_text_iff.1 hne)

theorem Layer.nested (h : Layer v) : Nested v := by
  induction h with
  | leaf h => exact .leaf h
  | document named _ ih => exact .document named.keyed ih

theorem layer_nil : Layer (.map []) := .document ⟨nofun, List.nodup_nil⟩ nofun

/-- A key that is put is there already, or comes after the others. -/
theorem map_fst_put (name : Text) (v : Value) (doc : Document) :
    (Value.put (.text name) v doc).map Prod.fst = doc.map Prod.fst ∨
      .text name ∉ doc.map Prod.fst ∧
        (Value.put (.text name) v doc).map Prod.fst = doc.map Prod.fst ++ [.text name] := by
  induction doc with
  | nil => exact Or.inr ⟨List.not_mem_nil, rfl⟩
  | cons e doc ih =>
    obtain ⟨k, w⟩ := e
    by_cases hk : k = .text name
    · subst hk
      rw [Value.put, if_pos (sameKey_text_iff.2 rfl)]
      exact Or.inl rfl
    · rw [Value.put, if_neg (mt sameKey_text_iff.1 hk)]
      rcases ih with hkeys | ⟨hnew, hkeys⟩
      · exact Or.inl (congrArg (k :: ·) hkeys)
      · refine Or.inr ⟨fun hmem => ?_, congrArg (k :: ·) hkeys⟩
        exact (List.mem_cons.1 hmem).elim (fun heq => hk heq.symm) hnew

theorem Named.put (h : Named doc) (name : Text) (v : Value) :
    Named (Value.put (.text name) v doc) := by
  rcases map_fst_put name v doc with hkeys | ⟨hnew, hkeys⟩
  · exact ⟨hkeys ▸ h.texts, hkeys ▸ h.nodup⟩
  · refine ⟨fun key hkey => ?_, ?_⟩
    · rw [hkeys] at hkey
      rcases List.mem_append.1 hkey with hkey | hkey
      · exact h.texts key hkey
      · exact ⟨name, List.mem_singleton.1 hkey⟩
    · rw [hkeys]
      exact List.nodup_append.2 ⟨h.nodup, List.pairwise_singleton _ _, fun key hkey other hother heq =>
        hnew (List.mem_singleton.1 hother ▸ heq ▸ hkey)⟩

theorem mem_put {e : Value × Value} (h : e ∈ Value.put (.text name) v doc) :
    e.2 = v ∨ e ∈ doc := by
  induction doc with
  | nil => exact Or.inl (congrArg Prod.snd (List.mem_singleton.1 h))
  | cons d doc ih =>
    rw [Value.put] at h
    split at h
    · rcases List.mem_cons.1 h with rfl | h
      · exact Or.inl rfl
      · exact Or.inr (List.mem_cons_of_mem _ h)
    · rcases List.mem_cons.1 h with rfl | h
      · exact Or.inr List.mem_cons_self
      · exact (ih h).imp id (List.mem_cons_of_mem _)

/-- A layer stays one when it gets another value. -/
theorem Layer.put (h : Layer (.map doc)) (hv : Layer v) (name : Text) :
    Layer (.map (Value.put (.text name) v doc)) := by
  refine .document (h.named.put name v) fun e he => ?_
  rcases mem_put he with heq | he
  · exact heq ▸ hv
  · exact h.inner e he

/-! ## Laying one document over another -/

theorem overlay_of_leaf (h : v.entries? = none) (old : Option Value) : overlay old v = v := by
  cases v with
  | map entries => cases h
  | _ => rw [overlay]; exact nofun

theorem overlay_map_of_some {old : Option Value} (h : old.bind Value.entries? = some base) :
    overlay old (.map upper) = .map (merge base upper) := by rw [overlay, h]

theorem overlay_map_of_none {old : Option Value} (h : old.bind Value.entries? = none) :
    overlay old (.map upper) = .map upper := by rw [overlay, h]

/-- **What stands at a key** of documents laid over each other. -/
theorem find?_merge (h : Keyed upper) (base : Document) : find? key (merge base upper) =
    match find? key upper with
    | some v => some (overlay (find? key base) v)
    | none => find? key base := by
  induction upper generalizing base with
  | nil => rw [merge, find?]
  | cons e upper ih =>
    obtain ⟨k, v⟩ := e
    have hk := h.keys k List.mem_cons_self
    obtain ⟨hnew, hapart⟩ := List.pairwise_cons.1 h.apart
    rw [merge, ih ⟨fun key hkey => h.keys key (List.mem_cons_of_mem _ hkey), hapart⟩,
      find?_put hk, find?]
    by_cases hkey : k.sameKey key
    · have hnone : find? key upper = none := by
        refine find?_eq_none_iff.2 fun l hl => Bool.eq_false_iff.2 fun hlkey => ?_
        have hsame := (h.keys l (List.mem_cons_of_mem _ hl)).sameKey_of_both hkey hlkey
        exact Bool.eq_false_iff.1 (hnew l hl) hsame
      rw [if_pos hkey, if_pos hkey, hnone, find?_congr hk hkey]
    · rw [if_neg hkey, if_neg hkey]

/-! ## Paths -/

theorem valueAt?_cons_eq_some_iff {doc : Document} :
    valueAt? (key :: rest) (.map doc) = some v ↔
      ∃ w, find? key doc = some w ∧ valueAt? rest w = some v := by
  rw [valueAt?, Value.entries?, Option.bind_some]
  exact Option.bind_eq_some_iff

/-- Below a leaf there is nothing. -/
theorem valueAt?_of_leaf (h : v.entries? = none) (hpath : path ≠ []) : valueAt? path v = none := by
  cases path with
  | nil => exact absurd rfl hpath
  | cons key rest => rw [valueAt?, h, Option.bind_none]

/-- A path into a value sees of it no more than its entries. -/
theorem valueAt?_of_entries? (h : v.entries? = some doc) (hpath : path ≠ []) :
    valueAt? path v = valueAt? path (.map doc) := by
  cases path with
  | nil => exact absurd rfl hpath
  | cons key rest =>
    rw [valueAt?, valueAt?, h]
    rfl

theorem valueAt?_append (front more : List Value) (v : Value) :
    valueAt? (front ++ more) v = (valueAt? front v).bind (valueAt? more) := by
  induction front generalizing v with
  | nil => rfl
  | cons key front ih =>
    rw [List.cons_append, valueAt?, valueAt?, Option.bind_assoc]
    congr 1
    funext doc
    rw [Option.bind_assoc]
    congr 1
    funext w
    exact ih w

theorem Nested.of_valueAt? (h : Nested w) (hv : valueAt? path w = some v) : Nested v := by
  induction path generalizing w with
  | nil => exact Option.some.inj hv ▸ h
  | cons key rest ih =>
    cases h with
    | leaf hleaf =>
      rw [valueAt?_of_leaf hleaf (List.cons_ne_nil _ _)] at hv
      cases hv
    | document keyed inner =>
      obtain ⟨_, hfind, hrest⟩ := valueAt?_cons_eq_some_iff.1 hv
      exact ih ((Nested.document keyed inner).of_find? hfind) hrest

/-- On the way to something there are mappings. -/
theorem Nested.exists_map {front more : List Value} (h : Nested w)
    (hv : valueAt? (front ++ more) w = some v) (hmore : more ≠ []) :
    ∃ doc, valueAt? front w = some (.map doc) := by
  rw [valueAt?_append] at hv
  obtain ⟨u, hfront, hrest⟩ := Option.bind_eq_some_iff.1 hv
  cases h.of_valueAt? hfront with
  | leaf hleaf =>
    rw [valueAt?_of_leaf hleaf hmore] at hrest
    cases hrest
  | document _ _ => exact ⟨_, hfront⟩

/-- **A leaf of the upper document stands.** -/
theorem valueAt?_merge_of_leaf (h : Nested (.map upper)) (hv : valueAt? path (.map upper) = some v)
    (hleaf : v.entries? = none) (base : Document) :
    valueAt? path (.map (merge base upper)) = some v := by
  induction path generalizing base upper with
  | nil =>
    cases hv
    cases hleaf
  | cons key rest ih =>
    obtain ⟨w, hfind, hw⟩ := valueAt?_cons_eq_some_iff.1 hv
    refine valueAt?_cons_eq_some_iff.2 ⟨overlay (find? key base) w, ?_, ?_⟩
    · rw [find?_merge h.keyed, hfind]
    cases h.of_find? hfind with
    | leaf hleaf => rwa [overlay_of_leaf hleaf]
    | @document doc keyed inner =>
      cases hold : (find? key base).bind Value.entries? with
      | none => rwa [overlay_map_of_none hold]
      | some below =>
        rw [overlay_map_of_some hold]
        exact ih (.document keyed inner) hw below

/-- **Where the upper document has a mapping, there is one.** -/
theorem exists_map_of_merge (h : Nested (.map upper))
    (hv : valueAt? path (.map upper) = some (.map doc)) (base : Document) :
    ∃ doc', valueAt? path (.map (merge base upper)) = some (.map doc') := by
  induction path generalizing base upper with
  | nil => exact ⟨_, rfl⟩
  | cons key rest ih =>
    obtain ⟨w, hfind, hw⟩ := valueAt?_cons_eq_some_iff.1 hv
    suffices hsome : ∃ doc', valueAt? rest (overlay (find? key base) w) = some (.map doc') by
      obtain ⟨doc', hdoc⟩ := hsome
      refine ⟨doc', valueAt?_cons_eq_some_iff.2 ⟨_, ?_, hdoc⟩⟩
      rw [find?_merge h.keyed, hfind]
    cases h.of_find? hfind with
    | leaf hleaf => exact ⟨doc, by rwa [overlay_of_leaf hleaf]⟩
    | @document inside keyed inner =>
      cases hold : (find? key base).bind Value.entries? with
      | none => exact ⟨doc, by rwa [overlay_map_of_none hold]⟩
      | some below =>
        rw [overlay_map_of_some hold]
        exact ih (.document keyed inner) hw below

/-- **Where the upper document has nothing, the lower one shows through**, unless the upper one has
a leaf on the way there. -/
theorem valueAt?_merge_of_none (h : Nested (.map upper))
    (hnone : valueAt? path (.map upper) = none)
    (hopen : ∀ front, front <+: path → ∀ w, valueAt? front (.map upper) = some w →
      w.entries? ≠ none) (base : Document) :
    valueAt? path (.map (merge base upper)) = valueAt? path (.map base) := by
  induction path generalizing base upper with
  | nil => cases hnone
  | cons key rest ih =>
    show (find? key (merge base upper)).bind (valueAt? rest) = (find? key base).bind (valueAt? rest)
    rw [find?_merge h.keyed]
    cases hfind : find? key upper with
    | none => rfl
    | some w =>
      have hbelow : ∀ front, valueAt? (key :: front) (.map upper) = valueAt? front w := by
        intro front
        show (find? key upper).bind (valueAt? front) = _
        rw [hfind, Option.bind_some]
      rw [hbelow] at hnone
      have hrest : rest ≠ [] := by
        rintro rfl
        cases hnone
      show valueAt? rest (overlay (find? key base) w) = _
      cases h.of_find? hfind with
      | leaf hleaf =>
        have hfirst : [key] <+: key :: rest := List.cons_prefix_cons.2 ⟨rfl, List.nil_prefix⟩
        exact absurd hleaf (hopen [key] hfirst w (hbelow []))
      | @document inside keyed inner =>
        cases hold : (find? key base).bind Value.entries? with
        | none =>
          rw [overlay_map_of_none hold, hnone]
          cases hlow : find? key base with
          | none => rfl
          | some old =>
            rw [hlow] at hold
            exact (valueAt?_of_leaf hold hrest).symm
        | some below =>
          obtain ⟨old, hlow, hentries⟩ := Option.bind_eq_some_iff.1 hold
          rw [overlay_map_of_some hold, hlow, Option.bind_some, valueAt?_of_entries? hentries hrest]
          refine ih (.document keyed inner) hnone (fun front hfront w hw => ?_) below
          exact hopen (key :: front) (List.cons_prefix_cons.2 ⟨rfl, hfront⟩) w
            ((hbelow front).trans hw)

end Settings
end Localize
