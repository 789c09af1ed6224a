import Localize.Proofs.Lookup
import Localize.Proofs.Settings.Merging
import Localize.Settings.Load

/-!
# What overrides what

Thirteen settings can be set by an option, and four of them by a variable too (`Setting`).  What
options and variables set comes as documents that are laid over the file's, so the question is what
these documents say: the settings that are given, each at its place, and nothing else (`Sets`).
With `valueAt?_merge_of_leaf` and `valueAt?_merge_of_none` the rest follows path by path
(`load_by_precedence`): an option wins over a variable, a variable over the file, and what none of
them is about stays as the file has it.
-/

set_option autoImplicit false

namespace Localize
namespace Settings

/-! ## The settings -/

/-- The path of a place. -/
def Place.path : Place → List Value
  | .top name => [.text name]
  | .inside section' name => [.text section', .text name]

/-- A setting that an option can set. -/
inductive Setting
  | locale
  | catalog
  | lookupDir
  | removeBrackets
  | warnOnMissing
  | excluded
  | included
  | inputDir
  | outputDir
  | workers
  | level
  | logFile
  | verbose
deriving DecidableEq, Repr

namespace Setting

/-- All of them, in the order in which options are looked at. -/
def all : List Setting := [
  locale, catalog, lookupDir, removeBrackets, warnOnMissing, excluded, included, inputDir, outputDir,
  workers, level, logFile, verbose]

/-- Where the setting stands in a document. -/
def place : Setting → Place
  | locale => .top "locale"
  | catalog => .inside "catalog" "path"
  | lookupDir => .inside "catalog" "lookup_dir"
  | removeBrackets => .inside "nuggets" "always_remove_brackets"
  | warnOnMissing => .inside "nuggets" "warn_on_missing_translations"
  | excluded => .inside "assets" "exclude_urls"
  | included => .inside "assets" "include_urls"
  | inputDir => .inside "build" "input_dir"
  | outputDir => .inside "build" "output_dir"
  | workers => .inside "build" "workers"
  | level => .inside "logging" "level"
  | logFile => .inside "logging" "file"
  | verbose => .inside "logging" "verbose"

/-- The path of the setting. -/
abbrev path (σ : Setting) : List Value := σ.place.path

/-- The name of the option. -/
def option : Setting → Text
  | locale => "locale"
  | catalog => "catalog"
  | lookupDir => "lookup_dir"
  | removeBrackets => "always_remove_brackets"
  | warnOnMissing => "warn_missing"
  | excluded => "exclude"
  | included => "include"
  | inputDir => "input_dir"
  | outputDir => "output_dir"
  | workers => "workers"
  | level => "log_level"
  | logFile => "log_file"
  | verbose => "verbose"

/-- When the option counts: switches and numbers if they are given at all, so that a zero counts,
and the others if there is something in them. -/
def rule : Setting → Rule
  | removeBrackets | warnOnMissing | workers | verbose => .given
  | excluded | included => .items
  | _ => .nonempty

/-- The items of a text or a list. -/
def listed : Value → List Value
  | .list items => items
  | .text t => t.map fun c => .text [c]
  | _ => []

/-- What the options say of the setting. -/
def fromOptions (options : Options) (σ : Setting) : Option Value :=
  let v := (options.lookup σ.option).getD .null
  match σ.rule with
  | .nonempty => if v.truthy then some v else none
  | .given => if v.isNull then none else some v
  | .items => if v.truthy then some (.list (listed v)) else none

/-- What the environment says of the setting. -/
def fromEnvironment (env : Environment) : Setting → Option Value
  | locale => (given? env "EASYI18N_LOCALE").map .text
  | catalog => (given? env "EASYI18N_CATALOG").map .text
  | level => (given? env "EASYI18N_LOG_LEVEL").map fun t => .text t.lower
  | removeBrackets => (given? env "EASYI18N_ALWAYS_REMOVE_BRACKETS").map fun t =>
      .bool (onTexts.contains (Text.lower (Text.strip t)))
  | _ => none

/-- The setting is set by an option or by a variable. -/
def isOverridden (env : Environment) (options : Options) (σ : Setting) : Bool :=
  (σ.fromOptions options).isSome || (σ.fromEnvironment env).isSome

theorem mem_all (σ : Setting) : σ ∈ all := by cases σ <;> decide

end Setting

variable {doc base : Document} {v w : Value} {path : List Value} {place : Place}
variable {σ τ : Setting} {said : Setting → Option Value} {env : Environment} {options : Options}

/-! ## Places -/

theorem Place.path_ne_nil (place : Place) : place.path ≠ [] := by
  cases place <;> exact List.cons_ne_nil _ _

/-- A place is on the way to another, or it is that place. -/
def Place.leadsTo : Place → Place → Bool
  | .top name, .top other => name = other
  | .top name, .inside section' _ => name = section'
  | .inside _ _, .top _ => false
  | .inside section' name, .inside other name' => section' = other ∧ name = name'

theorem Place.prefix_iff {p q : Place} : p.path <+: q.path ↔ p.leadsTo q := by
  cases p <;> cases q <;> simp [Place.path, Place.leadsTo, List.cons_prefix_cons]

/-- **No two settings stand in each other's way.** -/
theorem Setting.eq_of_prefix (h : σ.path <+: τ.path) : σ = τ := by
  have hapart : ∀ σ ∈ all, ∀ τ ∈ all, σ.place.leadsTo τ.place → σ = τ := by decide +kernel
  exact hapart σ σ.mem_all τ τ.mem_all (Place.prefix_iff.1 h)

/-- The document that sets one place. -/
def Place.document (v : Value) : Place → Document
  | .top name => [(.text name, v)]
  | .inside section' name => [(.text section', .map [(.text name, v)])]

theorem layer_singleton (h : Layer v) (name : Text) : Layer (.map [(.text name, v)]) :=
  layer_nil.put h name

theorem layer_document (h : v.entries? = none) (place : Place) :
    Layer (.map (place.document v)) := by
  cases place with
  | top name => exact layer_singleton (.leaf h) name
  | inside section' name => exact layer_singleton (layer_singleton (.leaf h) name) section'

theorem find?_singleton {name : Text} {key : Value} :
    find? key [(.text name, v)] = some w ↔ key = .text name ∧ w = v := by
  rw [find?, find?]
  by_cases hkey : key = .text name
  · rw [if_pos (text_sameKey_iff.2 hkey), Option.some_inj]
    exact ⟨fun heq => ⟨hkey, heq.symm⟩, fun heq => heq.2.symm⟩
  · rw [if_neg (mt text_sameKey_iff.1 hkey)]
    exact iff_of_false (Option.some_ne_none w).symm fun heq => hkey heq.1

theorem valueAt?_document (v : Value) (place : Place) :
    valueAt? place.path (.map (place.document v)) = some v := by
  cases place with
  | top name => exact valueAt?_cons_eq_some_iff.2 ⟨v, find?_singleton.2 ⟨rfl, rfl⟩, rfl⟩
  | inside section' name =>
    exact valueAt?_cons_eq_some_iff.2 ⟨_, find?_singleton.2 ⟨rfl, rfl⟩,
      valueAt?_cons_eq_some_iff.2 ⟨v, find?_singleton.2 ⟨rfl, rfl⟩, rfl⟩⟩

/-- Such a document has something on the way to its place, and its leaf there. -/
theorem of_valueAt?_document (hv : v.entries? = none) (hpath : path ≠ [])
    (h : valueAt? path (.map (place.document v)) = some w) :
    path <+: place.path ∧ (w.entries? = none → path = place.path) := by
  have hend : ∀ {name : Text} {rest : List Value} {key : Value},
      valueAt? (key :: rest) (.map [(.text name, v)]) = some w → key = .text name ∧ rest = [] := by
    intro name rest key h
    obtain ⟨_, hfind, hrest⟩ := valueAt?_cons_eq_some_iff.1 h
    obtain ⟨hkey, rfl⟩ := find?_singleton.1 hfind
    refine ⟨hkey, Classical.byContradiction fun hne => ?_⟩
    rw [valueAt?_of_leaf hv hne] at hrest
    cases hrest
  cases path with
  | nil => exact absurd rfl hpath
  | cons key rest =>
    cases place with
    | top name =>
      obtain ⟨rfl, rfl⟩ := hend h
      exact ⟨List.prefix_rfl, fun _ => rfl⟩
    | inside section' name =>
      obtain ⟨_, hfind, hrest⟩ := valueAt?_cons_eq_some_iff.1 h
      obtain ⟨rfl, rfl⟩ := find?_singleton.1 hfind
      cases rest with
      | nil =>
        cases hrest
        exact ⟨List.cons_prefix_cons.2 ⟨rfl, List.nil_prefix⟩, nofun⟩
      | cons key rest =>
        obtain ⟨rfl, rfl⟩ := hend hrest
        exact ⟨List.prefix_rfl, fun _ => rfl⟩

/-- Setting a place is laying a document over that sets it alone. -/
theorem setAt_eq_merge (h : Layer (.map doc)) (hv : v.entries? = none) (place : Place) :
    setAt place v doc = merge doc (place.document v) := by
  cases place with
  | top name =>
    rw [setAt, Place.document, merge, merge, overlay_of_leaf hv]
  | inside section' name =>
    have hinner : ∀ below : Document, merge below [(.text name, v)]
        = Value.put (.text name) v below := by
      intro below
      rw [merge, merge, overlay_of_leaf hv]
    rw [setAt, Place.document, merge, merge]
    cases hfind : find? (.text section') doc with
    | none => rw [overlay_map_of_none (by rfl)]; rfl
    | some old =>
      cases h.of_find? hfind with
      | leaf hleaf =>
        rw [overlay_map_of_none (by exact hleaf)]
        cases old with
        | map entries => cases hleaf
        | _ => rfl
      | document _ _ => rw [overlay_map_of_some (by rfl), hinner]

theorem layer_setAt (h : Layer (.map doc)) (hv : v.entries? = none) (place : Place) :
    Layer (.map (setAt place v doc)) := by
  cases place with
  | top name => exact h.put (.leaf hv) name
  | inside section' name =>
    rw [setAt]
    refine h.put (Layer.put ?_ (.leaf hv) name) section'
    split
    · rename_i entries hfind
      exact h.of_find? hfind
    · exact layer_nil

/-! ## Documents of overrides -/

/-- A document sets the settings of which something is said, and has nothing else. -/
structure Sets (said : Setting → Option Value) (doc : Document) : Prop where
  layer : Layer (.map doc)
  leaf : ∀ σ v, said σ = some v → v.entries? = none
  values : ∀ σ v, said σ = some v → valueAt? σ.path (.map doc) = some v
  /-- A path that leads to something leads towards a setting, and leaves are at its end. -/
  only : ∀ path v, path ≠ [] → valueAt? path (.map doc) = some v →
    ∃ σ, (said σ).isSome ∧ path <+: σ.path ∧ (v.entries? = none → path = σ.path)

namespace Sets

theorem nil : Sets (fun _ => none) [] where
  layer := layer_nil
  leaf := nofun
  values := nofun
  only path v hpath h := by
    cases path with
    | nil => exact absurd rfl hpath
    | cons key rest => cases h

/-- **What is set wins.** -/
theorem valueAt?_merge_of_some (h : Sets said doc) (hσ : said σ = some v) (base : Document) :
    valueAt? σ.path (.map (merge base doc)) = some v :=
  valueAt?_merge_of_leaf h.layer.nested (h.values σ v hσ) (h.leaf σ v hσ) base

/-- **What lies apart from all that is set stays as it was.** -/
theorem valueAt?_merge_of_apart (h : Sets said doc) (hpath : path ≠ [])
    (hapart : ∀ σ, (said σ).isSome → ¬ σ.path <+: path ∧ ¬ path <+: σ.path) (base : Document) :
    valueAt? path (.map (merge base doc)) = valueAt? path (.map base) := by
  refine valueAt?_merge_of_none h.layer.nested ?_ (fun front hfront w hw hleaf => ?_) base
  · refine Option.eq_none_iff_forall_ne_some.2 fun v hv => ?_
    obtain ⟨σ, hσ, hprefix, -⟩ := h.only path v hpath hv
    exact (hapart σ hσ).2 hprefix
  · cases front with
    | nil =>
      cases hw
      cases hleaf
    | cons key rest =>
      obtain ⟨σ, hσ, -, heq⟩ := h.only _ w (List.cons_ne_nil _ _) hw
      exact (hapart σ hσ).1 (heq hleaf ▸ hfront)

/-- What is not set stays as it was. -/
theorem valueAt?_merge_of_unsaid (h : Sets said doc) (hσ : said σ = none) (base : Document) :
    valueAt? σ.path (.map (merge base doc)) = valueAt? σ.path (.map base) := by
  refine h.valueAt?_merge_of_apart σ.place.path_ne_nil (fun τ hτ => ?_) base
  have hne : τ ≠ σ := by
    rintro rfl
    rw [hσ] at hτ
    cases hτ
  exact ⟨mt Setting.eq_of_prefix hne, mt Setting.eq_of_prefix hne.symm⟩

/-- **A setting after a document is laid over another.** -/
theorem valueAt?_merge (h : Sets said doc) (base : Document) (σ : Setting) :
    valueAt? σ.path (.map (merge base doc)) = (said σ).or (valueAt? σ.path (.map base)) := by
  cases hσ : said σ with
  | none => rw [h.valueAt?_merge_of_unsaid hσ, Option.none_or]
  | some v => rw [h.valueAt?_merge_of_some hσ, Option.some_or]

/-- **One more setting is set.** -/
theorem setAt (h : Sets said doc) (hσ : said σ = none) (hv : v.entries? = none) :
    Sets (fun τ => if τ = σ then some v else said τ) (setAt σ.place v doc) := by
  have hone := layer_document hv σ.place
  have hlayer := layer_setAt h.layer hv σ.place
  rw [setAt_eq_merge h.layer hv] at hlayer ⊢
  -- what is set before is apart from the new setting, as no two settings stand in each other's way
  have hkept : ∀ {path}, path ≠ [] → ¬ σ.path <+: path → ¬ path <+: σ.path →
      valueAt? path (.map (merge doc (σ.place.document v))) = valueAt? path (.map doc) := by
    intro path hpath hbelow habove
    refine valueAt?_merge_of_none hone.nested ?_ (fun front hfront w hw hleaf => ?_) doc
    · refine Option.eq_none_iff_forall_ne_some.2 fun w hw => ?_
      exact habove (of_valueAt?_document hv hpath hw).1
    · cases front with
      | nil =>
        cases hw
        cases hleaf
      | cons key rest =>
        have heq := (of_valueAt?_document hv (List.cons_ne_nil _ _) hw).2 hleaf
        rw [heq] at hfront
        exact hbelow hfront
  have hnew := valueAt?_merge_of_leaf hone.nested (valueAt?_document v σ.place) hv doc
  refine ⟨hlayer, fun τ w hw => ?_, fun τ w hw => ?_, fun path w hpath hw => ?_⟩
  · split at hw
    · cases hw
      exact hv
    · exact h.leaf τ w hw
  · split at hw
    · rename_i heq
      cases hw
      exact heq ▸ hnew
    · rename_i hne
      rw [hkept τ.place.path_ne_nil (mt Setting.eq_of_prefix (Ne.symm hne))
        (mt Setting.eq_of_prefix hne)]
      exact h.values τ w hw
  · by_cases hbelow : σ.path <+: path
    · -- below the new leaf there is nothing, so the path ends there
      obtain ⟨more, rfl⟩ := hbelow
      rw [valueAt?_append, hnew, Option.bind_some] at hw
      have hmore : more = [] := Classical.byContradiction fun hne => by
        rw [valueAt?_of_leaf hv hne] at hw
        cases hw
      rw [hmore, List.append_nil]
      exact ⟨σ, by rw [if_pos rfl]; rfl, List.prefix_rfl, fun _ => rfl⟩
    · by_cases habove : path <+: σ.path
      · refine ⟨σ, by rw [if_pos rfl]; rfl, habove, fun hleaf => ?_⟩
        obtain ⟨more, heq⟩ := habove
        by_cases hmore : more = []
        · rw [← heq, hmore, List.append_nil]
        · have hvalue : valueAt? (path ++ more) (.map (σ.place.document v)) = some v := by
            rw [heq]
            exact valueAt?_document v σ.place
          obtain ⟨_, hmap⟩ := hone.nested.exists_map hvalue hmore
          obtain ⟨_, hmerged⟩ := exists_map_of_merge hone.nested hmap doc
          rw [hw] at hmerged
          cases hmerged
          cases hleaf
      · rw [hkept hpath hbelow habove] at hw
        obtain ⟨τ, hτ, hprefix⟩ := h.only path w hpath hw
        refine ⟨τ, ?_, hprefix⟩
        rw [if_neg]
        · exact hτ
        · rintro rfl
          rw [hσ] at hτ
          cases hτ

/-- One more setting is set, if there is something to set it to. -/
theorem setIf (h : Sets said doc) (hσ : said σ = none) (v? : Option Value)
    (hv : ∀ v, v? = some v → v.entries? = none) :
    Sets (fun τ => if τ = σ then v? else said τ)
      (v?.elim doc fun v => Settings.setAt σ.place v doc) := by
  cases v? with
  | some v => exact h.setAt hσ (hv v rfl)
  | none =>
    have hsame : (fun τ => if τ = σ then none else said τ) = said := by
      funext τ
      split
      · rename_i heq
        rw [heq, hσ]
      · rfl
    rw [hsame]
    exact h

end Sets

/-! ## The environment -/

/-- A document in which a setting is what a variable says of it, if the variable is given. -/
def setFrom (env : Environment) (name : String) (σ : Setting) (read : Text → Value)
    (doc : Document) : Document :=
  match given? env name with
  | some t => setAt σ.place (read t) doc
  | none => doc

theorem Sets.setFrom (h : Sets said doc) (env : Environment) (name : String) (σ : Setting)
    (read : Text → Value) (hσ : said σ = none) (hread : ∀ t, (read t).entries? = none) :
    Sets (fun τ => if τ = σ then (given? env name).map read else said τ)
      (setFrom env name σ read doc) := by
  have hset := h.setIf hσ ((given? env name).map read) fun v hv => by
    obtain ⟨t, -, rfl⟩ := Option.map_eq_some_iff.1 hv
    exact hread t
  rw [Settings.setFrom]
  cases hgiven : given? env name <;> rw [hgiven] at hset <;> exact hset

/-- **The environment sets what its variables say**, and nothing else. -/
theorem sets_fromEnvironment (env : Environment) :
    Sets (fun σ => σ.fromEnvironment env) (fromEnvironment env) := by
  have hlocale := Sets.nil.setFrom env "EASYI18N_LOCALE" .locale .text rfl fun _ => rfl
  have hcatalog := hlocale.setFrom env "EASYI18N_CATALOG" .catalog .text rfl fun _ => rfl
  have hlevel := hcatalog.setFrom env "EASYI18N_LOG_LEVEL" .level (fun t => .text t.lower) rfl
    fun _ => rfl
  have hbrackets := hlevel.setFrom env "EASYI18N_ALWAYS_REMOVE_BRACKETS" .removeBrackets
    (fun t => .bool (onTexts.contains (Text.lower (Text.strip t)))) rfl fun _ => rfl
  refine Eq.mp (congrArg (Sets · _) ?_) hbrackets
  funext σ
  cases σ <;> rfl

/-! ## The options -/

/-- Options that can be laid over a document: none of them is a mapping, and those that set lists
have items. -/
structure Plain (options : Options) : Prop where
  noMapping : ∀ e ∈ options, e.2.entries? = none
  items : ∀ σ : Setting, σ.rule = .items → ∀ v, options.lookup σ.option = some v → v.truthy →
    (∃ t, v = .text t) ∨ ∃ items, v = .list items

/-- What an option sets, if it counts, is what it says. -/
theorem optionValue_eq_fromOptions (h : Plain options) (σ : Setting) :
    optionValue σ.rule ((options.lookup σ.option).getD .null) = .ok (σ.fromOptions options) := by
  rw [Setting.fromOptions]
  cases hrule : σ.rule with
  | nonempty => rfl
  | given => rfl
  | items =>
    rw [optionValue]
    split
    · rename_i htruthy
      cases hlookup : options.lookup σ.option with
      | none =>
        rw [hlookup] at htruthy
        cases htruthy
      | some v =>
        rw [hlookup] at htruthy
        rcases h.items σ hrule v hlookup htruthy with ⟨t, rfl⟩ | ⟨items, rfl⟩
        · rfl
        · rfl
    · rfl

/-- What an option says is no mapping. -/
theorem entries?_fromOptions (h : Plain options) (hv : σ.fromOptions options = some v) :
    v.entries? = none := by
  have hlookup : ((options.lookup σ.option).getD .null).entries? = none := by
    cases hlookup : options.lookup σ.option with
    | none => rfl
    | some w => exact h.noMapping _ (mem_of_lookup hlookup)
  rw [Setting.fromOptions] at hv
  cases hrule : σ.rule <;> simp only [hrule] at hv <;> split at hv <;> cases hv
  · exact hlookup
  · exact hlookup
  · rfl

/-- Options are looked at one by one. -/
theorem exists_fromOptionsBy (h : Plain options) {σs : List Setting} (hnodup : σs.Nodup)
    (hdoc : Sets said doc) (hunsaid : ∀ σ ∈ σs, said σ = none) :
    ∃ doc', fromOptionsBy options (σs.map fun σ => (σ.option, σ.rule, σ.place)) doc = .ok doc' ∧
      Sets (fun σ => if σ ∈ σs then σ.fromOptions options else said σ) doc' := by
  induction σs generalizing said doc with
  | nil => exact ⟨doc, rfl, hdoc⟩
  | cons σ σs ih =>
    obtain ⟨hnew, hnodup⟩ := List.nodup_cons.1 hnodup
    have hset := hdoc.setIf (hunsaid σ List.mem_cons_self) (σ.fromOptions options)
      fun v hv => entries?_fromOptions h hv
    obtain ⟨doc', hrest, hsets⟩ := ih hnodup hset fun τ hτ => by
      rw [if_neg]
      · exact hunsaid τ (List.mem_cons_of_mem _ hτ)
      · rintro rfl
        exact hnew hτ
    refine ⟨doc', ?_, ?_⟩
    · rw [List.map_cons, fromOptionsBy, optionValue_eq_fromOptions h, ← hrest]
      cases σ.fromOptions options <;> rfl
    · refine Eq.mp (congrArg (Sets · _) ?_) hsets
      funext τ
      by_cases hmem : τ ∈ σs
      · rw [if_pos hmem, if_pos (List.mem_cons_of_mem _ hmem)]
      · by_cases heq : τ = σ
        · rw [if_neg hmem, if_pos heq, heq, if_pos List.mem_cons_self]
        · rw [if_neg hmem, if_neg heq, if_neg]
          exact fun hin => (List.mem_cons.1 hin).elim heq hmem

/-- **Options set what they say**, and nothing else. -/
theorem exists_sets_fromOptions (h : Plain options) :
    ∃ doc, fromOptions options = .ok doc ∧ Sets (fun σ => σ.fromOptions options) doc := by
  have hnodup : Setting.all.Nodup := by decide
  obtain ⟨doc, hdoc, hsets⟩ := exists_fromOptionsBy h hnodup Sets.nil fun _ _ => rfl
  refine ⟨doc, hdoc, Eq.mp (congrArg (Sets · _) ?_) hsets⟩
  funext σ
  rw [if_pos σ.mem_all]

/-! ## The document that is read -/

/-- What is read is the file's document with the environment's and that of the options over it. -/
theorem load_of_readDocument {room : Nat} {tree : Tree} {path : Option Path} {upper : Document}
    (hread : readDocument room tree path = .ok doc) (hoptions : fromOptions options = .ok upper)
    (env : Environment) :
    load room tree path env options = ofDocument (merge (merge doc (fromEnvironment env)) upper) := by
  rw [load, hread]
  show (applyOptions _ options).mapError _ >>= _ = _
  rw [applyOptions, hoptions]
  rfl

/-- What a document says once the environment and the options are laid over it. -/
structure ByPrecedence (doc : Document) (env : Environment) (options : Options)
    (merged : Document) : Prop where
  /-- A setting is what the option says, or else the environment, or else the document. -/
  setting : ∀ σ : Setting, valueAt? σ.path (.map merged) =
    ((σ.fromOptions options).or (σ.fromEnvironment env)).or (valueAt? σ.path (.map doc))
  /-- What lies apart from the settings that are overridden is as it was, and where. -/
  apart : ∀ path, path ≠ [] →
    (∀ σ : Setting, σ.isOverridden env options → ¬ σ.path <+: path ∧ ¬ path <+: σ.path) →
    valueAt? path (.map merged) = valueAt? path (.map doc)
  /-- The section of a setting that is overridden is a mapping, whatever it was. -/
  inSection : ∀ (σ : Setting) (section' name : Text), σ.place = .inside section' name →
    σ.isOverridden env options →
    ∃ w entries, find? (.text section') merged = some w ∧ w.entries? = some entries

/-- **An option wins over a variable, and a variable over the file**, setting by setting.  What
neither sets stays as the file has it, at every depth, beside what is set. -/
theorem load_by_precedence (doc : Document) (env : Environment) (h : Plain options) :
    ∃ merged, ByPrecedence doc env options merged ∧
      ∀ room tree path, readDocument room tree path = .ok doc →
        load room tree path env options = ofDocument merged := by
  obtain ⟨upper, hupper, hoptions⟩ := exists_sets_fromOptions h
  have henv := sets_fromEnvironment env
  have hsetting : ∀ σ : Setting,
      valueAt? σ.path (.map (merge (merge doc (fromEnvironment env)) upper)) =
        ((σ.fromOptions options).or (σ.fromEnvironment env)).or (valueAt? σ.path (.map doc)) := by
    intro σ
    rw [hoptions.valueAt?_merge, henv.valueAt?_merge, Option.or_assoc]
  refine ⟨_, ⟨hsetting, fun path hpath hapart => ?_, fun σ section' name hplace hσ => ?_⟩,
    fun room tree path hread => load_of_readDocument hread hupper env⟩
  · rw [hoptions.valueAt?_merge_of_apart hpath, henv.valueAt?_merge_of_apart hpath]
    · exact fun σ hσ => hapart σ (Bool.or_eq_true_iff.2 (Or.inr hσ))
    · exact fun σ hσ => hapart σ (Bool.or_eq_true_iff.2 (Or.inl hσ))
  · -- there is something at the setting, so there is a mapping on the way to it
    obtain ⟨v, hv⟩ : ∃ v, (σ.fromOptions options).or (σ.fromEnvironment env) = some v := by
      rw [← Option.isSome_iff_exists, Option.isSome_or]
      exact hσ
    have hvalue := hsetting σ
    rw [hv, Option.some_or, Setting.path, hplace] at hvalue
    obtain ⟨w, hw, hbelow⟩ := valueAt?_cons_eq_some_iff.1 hvalue
    obtain ⟨entries, hentries, -⟩ := Option.bind_eq_some_iff.1 hbelow
    exact ⟨w, entries, hw, hentries⟩

/-- A section that is a number is there for good unless something in it is set, a zero is as good
as any number for what counts if it is given, and the items of a text are its code points. -/
theorem load_by_precedence_over_number :
    Plain [("verbose", .int 0), ("exclude", .text "ab")] ∧
      ∃ merged : Document,
        valueAt? [.text "logging", .text "verbose"] (.map merged) = some (.int 0) ∧
        valueAt? [.text "logging", .text "level"] (.map merged) = some (.text "debug") ∧
        valueAt? [.text "assets", .text "exclude_urls"] (.map merged)
          = some (.list [.text "a", .text "b"]) ∧
        valueAt? [.text "catalog"] (.map merged) = some (.int 5) ∧
        ∀ room tree path, readDocument room tree path = .ok [(.text "catalog", .int 5),
            (.text "logging", .map [(.text "level", .text "info"), (.text "verbose", .int 2)])] →
          load room tree path [("EASYI18N_LOG_LEVEL", "DEBUG")]
            [("verbose", .int 0), ("exclude", .text "ab")] = ofDocument merged := by
  have hplain : Plain [("verbose", .int 0), ("exclude", .text "ab")] :=
    ⟨by decide, fun σ hrule v hlookup _ => by
      cases σ <;> cases hrule <;> cases hlookup
      exact Or.inl ⟨_, rfl⟩⟩
  obtain ⟨merged, hmerged, hload⟩ := load_by_precedence
    [(.text "catalog", .int 5), (.text "logging",
      .map [(.text "level", .text "info"), (.text "verbose", .int 2)])]
    [("EASYI18N_LOG_LEVEL", "DEBUG")] hplain
  refine ⟨hplain, merged, hmerged.setting .verbose, hmerged.setting .level,
    hmerged.setting .excluded, ?_, hload⟩
  rw [hmerged.apart [.text "catalog"] (List.cons_ne_nil _ _)]
  · rfl
  · intro σ hσ
    have hplace : σ.place.leadsTo (.top "catalog") = false ∧
        (Place.top "catalog").leadsTo σ.place = false := by
      cases σ <;> first | exact ⟨by decide +kernel, by decide +kernel⟩ | cases hσ
    exact ⟨fun h => absurd (Place.prefix_iff (q := .top "catalog").1 h) (by rw [hplace.1]; decide),
      fun h => absurd (Place.prefix_iff (p := .top "catalog").1 h) (by rw [hplace.2]; decide)⟩

end Settings
end Localize
