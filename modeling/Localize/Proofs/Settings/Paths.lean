import Localize.Proofs.Build.Course
import Localize.Proofs.Resolution.Rendering
import Localize.Settings.Load

/-!
# The paths of settings that are read

Settings are read field by field, and every path among them is read from a text.  So the paths of
settings that come from a document are such as a text can write (`Settings.normal_of_ofDocument`),
which is what the builds by them need.
-/

set_option autoImplicit false

namespace Localize
namespace Settings

variable {α β : Type}

/-! ## What holds of whatever is read -/

theorem both_eq_ok {x : Reading α} {y : Reading β} {a : α} {b : β} (h : both x y = .ok (a, b)) :
    x = .ok a ∧ y = .ok b := by
  cases x <;> cases y <;> simp_all [both]

/-- A field is read, or it is what holds without it. -/
theorem of_readField {P : α → Prop} {doc : Document} {name : Text} {default a : α}
    {read : Value → Reading α} (hdefault : P default) (hread : ∀ v a, read v = .ok a → P a)
    (h : readField doc name default read = .ok a) : P a := by
  rw [readField] at h
  split at h
  · rename_i v _
    cases hv : read v with
    | error es =>
      rw [hv, at'] at h
      cases h
    | ok a' =>
      rw [hv, at'] at h
      cases h
      exact hread v a hv
  · cases h
    exact hdefault

theorem of_readOptional {P : α → Prop} {read : Value → Reading α}
    (hread : ∀ v a, read v = .ok a → P a) {v : Value} {o : Option α}
    (h : readOptional read v = .ok o) : ∀ a, o = some a → P a := by
  unfold readOptional at h
  split at h
  · cases h
    exact nofun
  · obtain ⟨a, hv, rfl⟩ := map_eq_ok_iff.1 h
    intro a' ha
    cases ha
    exact hread _ a hv

theorem of_readFields {P : α → Prop} {read : Document → Reading α}
    (hread : ∀ doc a, read doc = .ok a → P a) {doc : Document} {a : α}
    (h : readFields read doc = .ok a) : P a := by
  rw [readFields] at h
  split at h
  · cases h
  · exact hread doc a h

theorem of_readSection {P : α → Prop} {name : Text} {read : Document → Reading α}
    (hread : ∀ doc a, read doc = .ok a → P a) {v : Value} {a : α}
    (h : readSection name read v = .ok a) : P a := by
  rw [readSection] at h
  split at h
  · exact of_readFields hread h
  · cases h

/-! ## Paths -/

theorem normal_of_readPath {v : Value} {p : Path} (h : readPath v = .ok p) : p.Normal := by
  cases v with
  | text t =>
    cases h
    exact Path.normal_ofText t
  | _ => cases h

/-- A path that may be left out is one that a text can write. -/
def NormalIfGiven (o : Option Path) : Prop := ∀ p, o = some p → p.Normal

theorem normalIfGiven_none : NormalIfGiven none := fun p hp => by cases hp

theorem normalIfGiven_of_readField {doc : Document} {name : Text} {o : Option Path}
    (h : readField doc name none (readOptional readPath) = .ok o) : NormalIfGiven o :=
  of_readField (P := NormalIfGiven) normalIfGiven_none
    (fun _ _ => of_readOptional fun _ _ => normal_of_readPath) h

theorem normal_of_readCatalog {doc : Document} {c : CatalogSettings} (h : readCatalog doc = .ok c) :
    NormalIfGiven c.lookupDir := by
  obtain ⟨⟨path, lookupDir, fuzzy, extras⟩, hread, rfl⟩ := map_eq_ok_iff.1 h
  exact normalIfGiven_of_readField (both_eq_ok (both_eq_ok hread).2).1

theorem normal_of_readBuild {doc : Document} {b : BuildSettings} (h : readBuild doc = .ok b) :
    b.inputDir.Normal ∧ NormalIfGiven b.outputDir := by
  obtain ⟨⟨input, output, workers, extras⟩, hread, rfl⟩ := map_eq_ok_iff.1 h
  obtain ⟨hinput, hrest⟩ := both_eq_ok hread
  refine ⟨of_readField ?_ (fun _ _ => normal_of_readPath) hinput,
    normalIfGiven_of_readField (both_eq_ok hrest).1⟩
  exact Path.normal_ofText _

/-- **The paths of settings that are read are such as a text can write.** -/
theorem normal_of_ofDocument {doc : Document} {s : Settings} (h : ofDocument doc = .ok s) :
    s.Normal := by
  rw [ofDocument] at h
  split at h
  · cases hread : read doc with
    | error es =>
      rw [hread] at h
      cases h
    | ok s' =>
      rw [hread] at h
      cases h
      refine of_readFields (fun doc s h => ?_) hread
      obtain ⟨⟨locale, catalog, nuggets, assets, build, logging, extras⟩, hread, rfl⟩ :=
        map_eq_ok_iff.1 h
      obtain ⟨-, hread⟩ := both_eq_ok hread
      obtain ⟨hcatalog, hread⟩ := both_eq_ok hread
      obtain ⟨-, hread⟩ := both_eq_ok hread
      obtain ⟨-, hread⟩ := both_eq_ok hread
      obtain ⟨hbuild, -⟩ := both_eq_ok hread
      have hlookup : NormalIfGiven catalog.lookupDir :=
        of_readField (P := fun c : CatalogSettings => NormalIfGiven c.lookupDir)
          normalIfGiven_none
          (fun _ _ => of_readSection fun _ _ => normal_of_readCatalog) hcatalog
      have hdirs : build.inputDir.Normal ∧ NormalIfGiven build.outputDir :=
        of_readField (P := fun b : BuildSettings => b.inputDir.Normal ∧ NormalIfGiven b.outputDir)
          ⟨Path.normal_ofText _, normalIfGiven_none⟩
          (fun _ _ => of_readSection fun _ _ => normal_of_readBuild) hbuild
      refine ⟨hdirs.1, ?_, hlookup⟩
      rw [outputDir]
      cases houtput : build.outputDir with
      | none => exact hdirs.1
      | some o => exact hdirs.2 o houtput
  · cases h

/-- Settings that are loaded come from a document. -/
theorem normal_of_load {room : Nat} {tree : Tree} {path : Option Path} {env : Environment}
    {options : Options} {s : Settings} (h : load room tree path env options = .ok s) :
    s.Normal := by
  rw [load] at h
  obtain ⟨doc, -, h⟩ := bind_eq_ok_iff.1 h
  obtain ⟨doc', -, h⟩ := bind_eq_ok_iff.1 h
  exact normal_of_ofDocument h

end Settings
end Localize
