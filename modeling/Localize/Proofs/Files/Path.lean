import Localize.Files.Path
import Localize.Proofs.Text.Marks

/-!
# Paths as they are written and the places they mean

A path is kept in parts, but the system is asked with its text.  As long as every part is one that a
text can write (`Path.Normal`), the two say the same: writing the path and reading it again gives it
back (`ofText_toText`).  Every path that is read from a text is of this kind (`normal_ofText`).

`Path.resolve` goes through the parts from left to right.  Parts that are names, and no double dots,
only ever lead further down (`resolve_join_ofNames`).
-/

set_option autoImplicit false

namespace Localize

namespace Text

/-- What stands between occurrences of a code point does not hold it. -/
theorem not_mem_of_mem_splitFrom {m : CodePoint} {acc t s : Text} (hacc : m ∉ acc)
    (h : s ∈ splitFrom [m] 0 acc t) : m ∉ s := by
  induction t generalizing acc with
  | nil =>
    rw [splitFrom, List.mem_singleton] at h
    rw [h, List.mem_reverse]
    exact hacc
  | cons c t ih =>
    rw [splitFrom] at h
    split at h
    · rcases List.mem_cons.1 h with rfl | h
      · rw [List.mem_reverse]
        exact hacc
      · exact ih List.not_mem_nil h
    · rename_i hstarts
      refine ih (fun hmem => ?_) h
      rcases List.mem_cons.1 hmem with rfl | hmem
      · exact hstarts (startsWith_iff.2 (List.prefix_append [m] t))
      · exact hacc hmem

theorem not_mem_of_mem_splitOn {m : CodePoint} {t s : Text} (h : s ∈ splitOn [m] t) : m ∉ s :=
  not_mem_of_mem_splitFrom List.not_mem_nil h

end Text

namespace Path

/-! ## Parts that a text can write -/

/-- A part that a text can write: it is not empty, not a single dot, and holds no slash. -/
def IsPart (part : Text) : Prop := part ≠ [] ∧ part ≠ dot ∧ CodePoint.ofChar '/' ∉ part

instance : DecidablePred IsPart := fun part =>
  inferInstanceAs (Decidable (part ≠ [] ∧ part ≠ dot ∧ CodePoint.ofChar '/' ∉ part))

/-- A part that leads down: it does not lead up. -/
def IsName (part : Text) : Prop := IsPart part ∧ part ≠ up

instance : DecidablePred IsName := fun part =>
  inferInstanceAs (Decidable (IsPart part ∧ part ≠ up))

/-- All parts of the path are such as a text can write. -/
def Normal (p : Path) : Prop := ∀ part ∈ p.parts, IsPart part

instance : DecidablePred Normal := fun p =>
  inferInstanceAs (Decidable (∀ part ∈ p.parts, IsPart part))

theorem IsPart.clear {part : Text} (h : IsPart part) : Text.Clear slash part := by
  refine (Text.clear_replicate_iff (n := 1) Nat.one_ne_zero).2 ⟨fun hin => ?_, fun hlast => ?_⟩
  · exact h.2.2 (hin.subset (List.mem_singleton.2 rfl))
  · exact h.2.2 (List.mem_of_getLast? hlast)

/-- A part that says something is kept when a path is read. -/
theorem IsPart.kept {part : Text} (h : IsPart part) : (part ≠ [] && part ≠ dot) = true := by
  simp [h.1, h.2.1]

/-- What stands between slashes and says something is a part. -/
theorem isPart_of_mem_splitOn {t part : Text} (h : part ∈ Text.splitOn slash t)
    (hkept : (part ≠ [] && part ≠ dot) = true) : IsPart part := by
  simp only [ne_eq, decide_not, Bool.and_eq_true, Bool.not_eq_true', decide_eq_false_iff_not]
    at hkept
  exact ⟨hkept.1, hkept.2, Text.not_mem_of_mem_splitOn h⟩

/-- **A path that is read from a text is normal.** -/
theorem normal_ofText (t : Text) : (ofText t).Normal := fun _ h =>
  isPart_of_mem_splitOn (List.mem_filter.1 h).1 (List.mem_filter.1 h).2

theorem Normal.parent {p : Path} (h : p.Normal) : p.parent.Normal := fun part hpart =>
  h part (List.dropLast_subset p.parts hpart)

theorem Normal.join {p q : Path} (hp : p.Normal) (hq : q.Normal) : (p.join q).Normal := by
  rw [Path.join]
  split
  · intro part hpart
    rcases List.mem_append.1 hpart with hpart | hpart
    · exact hp part hpart
    · exact hq part hpart
  · exact hq

/-- The first parts of a normal path make a normal path. -/
theorem Normal.of_prefix {p : Path} (h : p.Normal) {above : List Text}
    (habove : above <+: p.parts) : Normal ⟨p.root, above⟩ :=
  fun part hpart => h part (habove.subset hpart)

/-- The last part of a normal path is such a part, if there is one. -/
theorem Normal.name {p : Path} (h : p.Normal) (hne : p.parts ≠ []) : IsPart p.name := by
  rw [Path.name, List.getLast?_eq_some_getLast hne, Option.getD_some]
  exact h _ (List.getLast_mem hne)

/-! ## Writing and reading -/

theorem slashes_slash_append (t : Text) : slashes (slash ++ t) = slashes t + 1 := by
  rw [slashes, slashes]
  show ((CodePoint.ofChar '/' :: t).takeWhile _).length = _
  rw [List.takeWhile_cons_of_pos (by simp), List.length_cons]

/-- Parts that are joined do not begin with a slash. -/
theorem slashes_join {parts : List Text} (h : ∀ part ∈ parts, IsPart part) :
    slashes (Text.join slash parts) = 0 := by
  cases parts with
  | nil => rfl
  | cons part parts =>
    obtain ⟨hne, -, hslash⟩ := h part List.mem_cons_self
    obtain ⟨c, part, rfl⟩ := List.exists_cons_of_ne_nil hne
    have hc : c ≠ CodePoint.ofChar '/' := fun hc => hslash (hc ▸ List.mem_cons_self)
    obtain ⟨rest, hrest⟩ : ∃ rest, Text.join slash ((c :: part) :: parts) = c :: rest := by
      cases parts with
      | nil => exact ⟨part, rfl⟩
      | cons next parts => exact ⟨_, rfl⟩
    rw [hrest, slashes, List.takeWhile_cons_of_neg (by simpa using hc), List.length_nil]

/-- The parts of a text that say something. -/
theorem parts_slash_append (t : Text) : (ofText (slash ++ t)).parts = (ofText t).parts := by
  have hcut : Text.splitOn slash (slash ++ t) = [] :: Text.splitOn slash t :=
    Text.splitOn_append (a := []) (List.cons_ne_nil _ _) Text.clear_nil
  rw [ofText, ofText]
  simp only [hcut]
  rw [List.filter_cons_of_neg (by simp)]

theorem parts_join {parts : List Text} (h : ∀ part ∈ parts, IsPart part) :
    (ofText (Text.join slash parts)).parts = parts := by
  rw [ofText]
  dsimp only
  cases hparts : parts with
  | nil => rfl
  | cons part rest =>
    have hcut : Text.splitOn slash (Text.join slash parts) = parts :=
      Text.splitOn_join (List.cons_ne_nil _ _) (by simp [hparts])
        fun part hpart => (h part hpart).clear
    rw [← hparts, hcut]
    exact List.filter_eq_self.2 fun part hpart => (h part hpart).kept

/-- **A normal path is the one that its text writes.** -/
theorem ofText_toText {p : Path} (h : p.Normal) : ofText p.toText = p := by
  have hjoin := slashes_join h
  have hparts := parts_join h
  obtain ⟨root, parts⟩ := p
  dsimp only [Normal] at hjoin hparts
  rw [toText]
  cases root with
  | relative =>
    dsimp only
    split
    · rename_i hnil
      subst hnil
      rfl
    · rw [show ofText _ = ⟨rootOf _, (ofText _).parts⟩ from rfl, hparts, rootOf, hjoin]
      rfl
  | absolute =>
    dsimp only
    rw [show ofText _ = ⟨rootOf _, (ofText _).parts⟩ from rfl, parts_slash_append, hparts, rootOf,
      slashes_slash_append, hjoin]
    rfl
  | doubled =>
    dsimp only
    rw [show ofText _ = ⟨rootOf _, (ofText _).parts⟩ from rfl, List.append_assoc,
      parts_slash_append, parts_slash_append, hparts, rootOf, slashes_slash_append,
      slashes_slash_append, hjoin]
    rfl

/-- The text of a path is cut at its slashes into its parts; what a root writes before them says
nothing. -/
theorem exists_splitOn_toText {p : Path} (h : p.Normal) (hne : p.parts ≠ []) :
    ∃ n, Text.splitOn slash p.toText = List.replicate n [] ++ p.parts ∧
      (p.root = .relative → n = 0) := by
  have hcut : Text.splitOn slash (Text.join slash p.parts) = p.parts :=
    Text.splitOn_join (List.cons_ne_nil _ _) hne fun part hpart => (h part hpart).clear
  have hslash : ∀ t, Text.splitOn slash (slash ++ t) = [] :: Text.splitOn slash t := fun _ =>
    Text.splitOn_append (a := []) (List.cons_ne_nil _ _) Text.clear_nil
  rw [toText]
  cases p.root with
  | relative =>
    dsimp only
    rw [if_neg hne]
    exact ⟨0, hcut, fun _ => rfl⟩
  | absolute =>
    refine ⟨1, ?_, nofun⟩
    dsimp only
    rw [hslash, hcut]
    rfl
  | doubled =>
    refine ⟨2, ?_, nofun⟩
    dsimp only
    rw [List.append_assoc, hslash, hslash, hcut]
    rfl

/-! ## Places -/

/-- Names lead down, one after the other. -/
theorem foldl_resolveStep_of_names {names : List Text} (h : up ∉ names) (place : Location) :
    names.foldl resolveStep place = place ++ names := by
  induction names generalizing place with
  | nil => exact (List.append_nil place).symm
  | cons name names ih =>
    rw [List.mem_cons, not_or] at h
    rw [List.foldl_cons, resolveStep, if_neg (Ne.symm h.1), ih h.2, List.append_assoc,
      List.singleton_append]

/-- The place of a normal path is made of names, if that of the working directory is. -/
theorem isName_of_mem_resolve {p : Path} (hp : p.Normal) {cwd : Location}
    (hcwd : ∀ part ∈ cwd, IsName part) : ∀ part ∈ p.resolve cwd, IsName part := by
  have hfold : ∀ (parts : List Text) (place : Location), (∀ part ∈ parts, IsPart part) →
      (∀ part ∈ place, IsName part) → ∀ part ∈ parts.foldl resolveStep place, IsName part := by
    intro parts
    induction parts with
    | nil => exact fun _ _ hplace => hplace
    | cons first parts ih =>
      intro place hparts hplace
      refine ih _ (fun part hpart => hparts part (List.mem_cons_of_mem _ hpart)) ?_
      rw [resolveStep]
      split
      · exact fun part hpart => hplace part (List.dropLast_subset place hpart)
      · rename_i hup
        intro part hpart
        rcases List.mem_append.1 hpart with hpart | hpart
        · exact hplace part hpart
        · rw [List.mem_singleton.1 hpart]
          exact ⟨hparts first List.mem_cons_self, hup⟩
  refine hfold p.parts _ hp ?_
  split
  · exact hcwd
  · exact nofun

theorem join_ofNames (p : Path) (names : Location) :
    p.join (ofNames names) = ⟨p.root, p.parts ++ names⟩ := if_pos rfl

/-- **Names below a path mean the place below its place.** -/
theorem resolve_join_ofNames (p : Path) {names : Location} (h : up ∉ names) (cwd : Location) :
    (p.join (ofNames names)).resolve cwd = p.resolve cwd ++ names := by
  rw [join_ofNames, resolve, List.foldl_append]
  exact foldl_resolveStep_of_names h _

/-- Below paths that mean the same place, a path means the same place. -/
theorem resolve_join_congr {p p' : Path} {cwd : Location} (h : p'.resolve cwd = p.resolve cwd)
    (q : Path) : (p'.join q).resolve cwd = (p.join q).resolve cwd := by
  rw [join, join]
  split
  · rw [resolve, resolve, List.foldl_append, List.foldl_append]
    exact congrArg (q.parts.foldl resolveStep) h
  · rfl

/-- The places that a path leads through, from where it starts to its own. -/
def waypoints (p : Path) (cwd : Location) : List Location :=
  (List.range (p.parts.length + 1)).map fun n => resolve cwd ⟨p.root, p.parts.take n⟩

theorem mem_waypoints_above {p : Path} {above : List Text} (h : above <+: p.parts)
    (cwd : Location) : resolve cwd ⟨p.root, above⟩ ∈ p.waypoints cwd := by
  refine List.mem_map.2 ⟨above.length, List.mem_range.2 (Nat.lt_succ_of_le h.length_le), ?_⟩
  rw [← List.prefix_iff_eq_take.1 h]

/-- A path leads through where it led before names were added, and through the places of the names.
-/
theorem mem_waypoints_join {p : Path} {names : Location} (h : up ∉ names) {cwd q : Location}
    (hq : q ∈ (p.join (ofNames names)).waypoints cwd) :
    q ∈ p.waypoints cwd ∨ ∃ above, above <+: names ∧ q = p.resolve cwd ++ above := by
  rw [join_ofNames] at hq
  obtain ⟨n, -, rfl⟩ := List.mem_map.1 hq
  dsimp only
  rw [List.take_append]
  by_cases hn : n ≤ p.parts.length
  · rw [Nat.sub_eq_zero_of_le hn, List.take_zero, List.append_nil]
    exact Or.inl (mem_waypoints_above (List.take_prefix n p.parts) cwd)
  · have hup : up ∉ names.take (n - p.parts.length) := fun hmem => h (List.mem_of_mem_take hmem)
    rw [List.take_of_length_le (Nat.le_of_not_le hn), resolve, List.foldl_append,
      foldl_resolveStep_of_names hup]
    exact Or.inr ⟨_, List.take_prefix _ _, rfl⟩

/-- Names are read as they are written. -/
theorem ofText_join_names {names : Location} (hne : names ≠ []) (h : ∀ name ∈ names, IsName name) :
    ofText (Text.join slash names) = ofNames names := by
  have htext : Text.join slash names = (ofNames names).toText := by
    rw [ofNames, toText]
    dsimp only
    rw [if_neg hne]
  rw [htext]
  exact ofText_toText fun name hname => (h name hname).1

end Path
end Localize
