import Localize.Proofs.Settings.Merging
import Localize.Settings.Load

/-!
# Settings read from a document with one field set

Each field of a document is read by itself, so setting one changes what is read for it and nothing
else (`field?_put`, `readExtras_put`, `brokenKey?_put`).  Reading before and after differ in one
value then: if there is no complaint afterwards, what is read before is the same but for that value,
and complaints that are there afterwards were there before (`ReadsBut`).  This goes from a field to
its section, and from a section to the whole.

The field that matters here is the one a build sets whether it is told to or not
(`ofDocument_merge_verbosity`).
-/

set_option autoImplicit false

namespace Localize
namespace Settings

variable {α β γ : Type} {doc : Document} {key name : Text} {names : List Text} {v : Value}

/-! ## A field that is set -/

theorem find?_text (name : Text) (doc : Document) :
    find? (.text name) doc = Value.field? name doc := by
  induction doc with
  | nil => rfl
  | cons e doc ih =>
    obtain ⟨k, w⟩ := e
    rw [find?, ih]
    by_cases hk : k = .text name
    · subst hk
      rw [if_pos (sameKey_text_iff.2 rfl), Value.field?, if_pos rfl]
    · rw [if_neg (mt sameKey_text_iff.1 hk)]
      cases k with
      | text t => rw [Value.field?, if_neg fun h => hk (congrArg Value.text h)]
      | _ => rfl

theorem field?_put (doc : Document) :
    Value.field? name (Value.put (.text key) v doc) =
      if key = name then some v else Value.field? name doc := by
  rw [← find?_text, find?_put (Value.isKey_text key), find?_text]
  simp [sameKey_text_iff]

/-- A field that is allowed is none of the extras, whatever is in it. -/
theorem readExtras_put (h : names.contains key) (v : Value) (doc : Document) :
    readExtras names (Value.put (.text key) v doc) = readExtras names doc := by
  induction doc with
  | nil => exact if_pos h
  | cons e doc ih =>
    obtain ⟨k, w⟩ := e
    rw [Value.put]
    split
    · rename_i hkey
      obtain rfl := sameKey_text_iff.1 hkey
      rw [readExtras, if_pos h, readExtras, if_pos h]
    · cases k with
      | text t => rw [readExtras, readExtras, ih]
      | _ =>
        rw [readExtras, readExtras, ih]
        all_goals
          intro t hkey
          cases hkey

theorem brokenKey?_put (h : key.any CodePoint.isSurrogate = false) (v : Value) (doc : Document) :
    brokenKey? (Value.put (.text key) v doc) = brokenKey? doc := by
  have hkey : wording (.text key) = .text key := by rw [wording, h]; rfl
  rw [brokenKey?, brokenKey?]
  rcases map_fst_put key v doc with hkeys | ⟨-, hkeys⟩
  · rw [hkeys]
  · rw [hkeys, List.find?_append, List.find?_cons_of_neg (by rw [hkey]; exact Bool.false_ne_true),
      List.find?_nil, Option.or_none]

theorem all_isTextKey_put (v : Value) (doc : Document) :
    ((Value.put (.text key) v doc).all fun (k, _) => isTextKey k)
      = doc.all fun (k, _) => isTextKey k := by
  have hfirst : ∀ doc : Document, (doc.all fun (k, _) => isTextKey k)
      = (doc.map Prod.fst).all isTextKey := fun doc => by rw [List.all_map]; rfl
  rw [hfirst, hfirst]
  rcases map_fst_put key v doc with hkeys | ⟨-, hkeys⟩
  · rw [hkeys]
  · rw [hkeys, List.all_append]
    exact Bool.and_true _

/-! ## Readings that differ in one value -/

/-- One reading is another but for a value, which is `b₀` in the other.  If the other has no
complaint, the value is what is left to read, by `r`. -/
structure ReadsBut (r : Reading β) (set : β → α → α) (b₀ : β) (x y : Reading α) : Prop where
  value : ∀ a, y = .ok a → set b₀ a = a ∧ x = (fun b => set b a) <$> r
  trouble : ∀ es, y = .error es → ∃ es', x = .error es'

namespace ReadsBut

variable {r : Reading β} {set : β → α → α} {b₀ : β} {x y : Reading α}

theorem value_only (r : Reading β) (b₀ : β) : ReadsBut r (fun b _ => b) b₀ r (.ok b₀) where
  value a h := by
    cases h
    exact ⟨rfl, by cases r <;> rfl⟩
  trouble := nofun

theorem both_left (h : ReadsBut r set b₀ x y) (z : Reading γ) :
    ReadsBut r (fun b (a, c) => (set b a, c)) b₀ (both x z) (both y z) where
  value a hok := by
    obtain ⟨a, c⟩ := a
    cases y <;> cases z <;> cases hok
    obtain ⟨hset, rfl⟩ := h.value _ rfl
    exact ⟨congrArg (·, c) hset, by cases r <;> rfl⟩
  trouble es herr := by
    cases y with
    | error es =>
      obtain ⟨es', rfl⟩ := h.trouble es rfl
      cases z <;> exact ⟨_, rfl⟩
    | ok a =>
      cases z <;> cases herr
      cases x <;> exact ⟨_, rfl⟩

theorem both_right (h : ReadsBut r set b₀ x y) (z : Reading γ) :
    ReadsBut r (fun b (c, a) => (c, set b a)) b₀ (both z x) (both z y) where
  value a hok := by
    obtain ⟨c, a⟩ := a
    cases z <;> cases y <;> cases hok
    obtain ⟨hset, rfl⟩ := h.value _ rfl
    exact ⟨congrArg (c, ·) hset, by cases r <;> rfl⟩
  trouble es herr := by
    cases y with
    | error es =>
      obtain ⟨es', rfl⟩ := h.trouble es rfl
      cases z <;> exact ⟨_, rfl⟩
    | ok a =>
      cases z <;> cases herr
      cases x <;> exact ⟨_, rfl⟩

theorem map (h : ReadsBut r set b₀ x y) {f : α → γ} {set' : β → γ → γ}
    (hf : ∀ b a, f (set b a) = set' b (f a)) : ReadsBut r set' b₀ (f <$> x) (f <$> y) where
  value c hok := by
    cases y <;> cases hok
    obtain ⟨hset, rfl⟩ := h.value _ rfl
    refine ⟨by rw [← hf, hset], ?_⟩
    cases r with
    | error es => rfl
    | ok b => exact congrArg Except.ok (hf b _)
  trouble es herr := by
    cases y <;> cases herr
    obtain ⟨es', rfl⟩ := h.trouble _ rfl
    exact ⟨_, rfl⟩

theorem at' (h : ReadsBut r set b₀ x y) (step : Step) :
    ReadsBut (Settings.at' step r) set b₀ (Settings.at' step x) (Settings.at' step y) where
  value a hok := by
    cases y <;> cases hok
    obtain ⟨hset, rfl⟩ := h.value _ rfl
    exact ⟨hset, by cases r <;> rfl⟩
  trouble es herr := by
    cases y <;> cases herr
    obtain ⟨es', rfl⟩ := h.trouble _ rfl
    exact ⟨_, rfl⟩

/-- A whole document is read the same way, if both have the same key that cannot be read. -/
theorem readFields {one : Document → Reading β} {read : Document → Reading α} {doc' : Document}
    (hbroken : brokenKey? doc' = brokenKey? doc)
    (h : ReadsBut (one doc) set b₀ (read doc) (read doc')) :
    ReadsBut (Settings.readFields one doc) set b₀ (Settings.readFields read doc)
      (Settings.readFields read doc') := by
  rw [Settings.readFields, Settings.readFields, Settings.readFields, hbroken]
  cases brokenKey? doc with
  | none => exact h
  | some key => exact ⟨nofun, fun es _ => ⟨_, rfl⟩⟩

end ReadsBut

/-! ## The verbosity -/

/-- Reads the verbosity alone. -/
def readVerbosity (doc : Document) : Reading Int :=
  readField doc "logging" 0
    (readSection "LoggingConfig" fun logging => readField logging "verbose" 0 readInteger)

/-- Settings with another verbosity. -/
def withVerbosity (n : Int) (s : Settings) : Settings :=
  { s with logging := { s.logging with verbose := n } }

/-- A document that sets the verbosity to nothing. -/
def silence : Document := [(.text "logging", .map [(.text "verbose", .int 0)])]

/-- Reading fields if all keys can be read, twice, is doing it once. -/
theorem readFields_readFields (read : Document → Reading α) (doc : Document) :
    readFields (readFields read) doc = readFields read doc := by
  rw [readFields]
  cases hkey : brokenKey? doc with
  | none => rfl
  | some key => rw [readFields, hkey]

theorem readField_put_of_ne (h : key ≠ name) (v : Value) (default : α) (read : Value → Reading α)
    (doc : Document) :
    readField (Value.put (.text key) v doc) name default read = readField doc name default read := by
  rw [readField, readField, field?_put, if_neg h]

theorem readField_put_self (v : Value) (default : α) (read : Value → Reading α) (doc : Document) :
    readField (Value.put (.text key) v doc) key default read = at' (.name key) (read v) := by
  rw [readField, field?_put, if_pos rfl]

/-- A section on logging, with and without its verbosity set. -/
theorem readLogging_put (doc : Document) :
    ReadsBut (readFields (fun logging => readField logging "verbose" 0 readInteger) doc)
      (fun n (l : LoggingSettings) => { l with verbose := n }) 0 (readFields readLogging doc)
      (readFields readLogging (Value.put (.text "verbose") (.int 0) doc)) := by
  rw [readLogging, readFields_readFields, readFields_readFields]
  refine .readFields (brokenKey?_put (by decide) _ doc) ?_
  rw [readField_put_of_ne (by decide), readField_put_of_ne (by decide), readField_put_self,
    readExtras_put (by decide)]
  exact .map (((ReadsBut.value_only _ 0).both_left _).both_right _ |>.both_right _) fun _ _ => rfl

/-- What the section on logging becomes when the verbosity is set to nothing. -/
def silenced (old : Option Value) : Value :=
  .map (Value.put (.text "verbose") (.int 0) ((old.bind Value.entries?).getD []))

theorem merge_silence (doc : Document) :
    merge doc silence
      = Value.put (.text "logging") (silenced (Value.field? "logging" doc)) doc := by
  rw [silence, merge, merge, find?_text, silenced]
  cases hold : (Value.field? "logging" doc).bind Value.entries? with
  | none => rw [overlay_map_of_none hold]; rfl
  | some below => rw [overlay_map_of_some hold, merge, merge, overlay_of_leaf rfl]; rfl

/-- The field for logging, with and without its verbosity set. -/
theorem readField_logging (doc : Document) :
    ReadsBut (readVerbosity doc) (fun n (l : LoggingSettings) => { l with verbose := n }) 0
      (readField doc "logging" {} (readSection "LoggingConfig" readLogging))
      (at' (.name "logging") (readSection "LoggingConfig" readLogging
        (silenced (Value.field? "logging" doc)))) := by
  have hempty : readSection "LoggingConfig" readLogging (silenced none) = .ok {} := by rfl
  rw [readVerbosity, readField, readField]
  cases hold : Value.field? "logging" doc with
  | none =>
    rw [hempty]
    exact (ReadsBut.value_only _ 0).map fun _ _ => rfl
  | some old =>
    refine .at' ?_ _
    cases hentries : old.entries? with
    | none =>
      -- what is no section makes way for one
      have hnew : silenced (some old) = silenced none := by
        rw [silenced, silenced, Option.bind_some, hentries]
        rfl
      rw [hnew, hempty, readSection, readSection, hentries]
      exact ⟨fun l hl => by cases hl; exact ⟨rfl, rfl⟩, nofun⟩
    | some below =>
      rw [readSection, readSection, readSection, silenced, Option.bind_some, hentries]
      exact readLogging_put below

/-- A document, with and without its verbosity set. -/
theorem read_merge_silence (doc : Document) :
    ReadsBut (readFields readVerbosity doc) withVerbosity 0 (read doc) (read (merge doc silence)) := by
  rw [merge_silence, read]
  refine .readFields (brokenKey?_put (by decide) _ doc) ?_
  have hother : ∀ {δ : Type} (name : Text) (default : δ) (read : Value → Reading δ) (v : Value),
      Text.ofString "logging" ≠ name →
      readField (Value.put (.text "logging") v doc) name default read
        = readField doc name default read :=
    fun name default read v h => readField_put_of_ne h v default read doc
  dsimp only
  rw [hother "locale" _ _ _ (by decide), hother "catalog" _ _ _ (by decide),
    hother "nuggets" _ _ _ (by decide), hother "assets" _ _ _ (by decide),
    hother "build" _ _ _ (by decide), readField_put_self, readExtras_put (by decide)]
  exact .map ((((((readField_logging doc).both_left _).both_right _).both_right _).both_right _
    |>.both_right _).both_right _) fun _ _ => rfl

/-- Two outcomes of loading settings are the same settings but for a verbosity, which is nothing in
the second.  If the second is no trouble, what is left to read for the first is the verbosity. -/
structure ButForVerbosity (verbosity : Reading Int) (x y : Except LoadError Settings) : Prop where
  value : ∀ s, y = .ok s → s.logging.verbose = 0 ∧
    x = (fun n => withVerbosity n s) <$> verbosity.mapError .invalid
  trouble : ∀ e, y = .error e → ∃ e', x = .error e'

/-- **Settings are the same but for the verbosity** if that is set to nothing. -/
theorem ofDocument_merge_silence (doc : Document) :
    ButForVerbosity (readFields readVerbosity doc) (ofDocument doc)
      (ofDocument (merge doc silence)) := by
  have hkeys : (merge doc silence).all (fun (key, _) => isTextKey key)
      = doc.all fun (key, _) => isTextKey key := by
    rw [merge_silence, all_isTextKey_put]
  have hread := read_merge_silence doc
  rw [ofDocument, ofDocument, hkeys]
  by_cases htexts : doc.all fun (key, _) => isTextKey key
  · rw [if_pos htexts, if_pos htexts]
    cases hquiet : read (merge doc silence) with
    | error es =>
      obtain ⟨es', hdoc⟩ := hread.trouble es hquiet
      rw [hdoc]
      refine ⟨fun s hs => ?_, fun e _ => ⟨_, rfl⟩⟩
      cases hs
    | ok s =>
      obtain ⟨hset, hdoc⟩ := hread.value s hquiet
      refine ⟨fun t ht => ?_, fun e he => ?_⟩
      · cases ht
        refine ⟨(congrArg (fun s => s.logging.verbose) hset).symm, ?_⟩
        rw [hdoc]
        cases readFields readVerbosity doc <;> rfl
      · cases he
  · rw [if_neg htexts, if_neg htexts]
    refine ⟨fun s hs => ?_, fun e _ => ⟨_, rfl⟩⟩
    cases hs

theorem withVerbosity_eq_self {n : Int} {s : Settings} (h : s.logging.verbose = n) :
    withVerbosity n s = s := by
  subst h
  rfl

/-- Two outcomes of loading settings are the same settings, or trouble both times. -/
def Agree : Except LoadError Settings → Except LoadError Settings → Prop
  | .ok s, .ok t => s = t
  | .error _, .error _ => True
  | _, _ => False

namespace ButForVerbosity

variable {verbosity : Reading Int} {x y : Except LoadError Settings}

/-- What is loaded first is loaded second, with no verbosity. -/
theorem eq_ok {s : Settings} (h : ButForVerbosity verbosity x y) (hx : x = .ok s) :
    y = .ok (withVerbosity 0 s) := by
  subst hx
  cases y with
  | error e =>
    obtain ⟨_, he⟩ := h.trouble e rfl
    cases he
  | ok t =>
    obtain ⟨hnone, hs⟩ := h.value t rfl
    cases verbosity with
    | error es => cases hs
    | ok n =>
      cases hs
      exact congrArg Except.ok (withVerbosity_eq_self hnone).symm

/-- **They agree** if the second is trouble, or if the verbosity is read as nothing. -/
theorem agree_iff (h : ButForVerbosity verbosity x y) :
    Agree x y ↔ (∃ e, y = .error e) ∨ verbosity = .ok 0 := by
  cases y with
  | error e =>
    obtain ⟨e', rfl⟩ := h.trouble e rfl
    exact ⟨fun _ => Or.inl ⟨e, rfl⟩, fun _ => trivial⟩
  | ok t =>
    obtain ⟨hnone, rfl⟩ := h.value t rfl
    cases verbosity with
    | error es => exact ⟨False.elim, fun h => by rcases h with ⟨_, h⟩ | h <;> cases h⟩
    | ok n =>
      refine ⟨fun hsame => Or.inr ?_, fun hzero => ?_⟩
      · have hverbose : n = t.logging.verbose := congrArg (fun s => s.logging.verbose) hsame
        rw [hverbose, hnone]
      · rcases hzero with ⟨_, h⟩ | h <;> cases h
        exact withVerbosity_eq_self hnone

end ButForVerbosity

end Settings
end Localize
