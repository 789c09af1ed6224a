import Localize.Proofs.Nugget.Segments

/-!
# Nuggets by a backtracking pattern

The grammar of a nugget can be handed to a matcher that knows nothing of bodies and separators:

    "[[[" segment ( "|||" segment )* ( "///" segment )? "]]]"

where a segment is one code point or more, as few as possible, none of which begins a closing mark,
and where of arguments and comments the matcher takes as many as possible.  Such a matcher goes
through the ways to read a text in an order of preference and stops at the first that works.
`attempts` lists the ways in this order, and `matched?` is the first one.

The reader of `Localize.Nugget.Basic` never goes back.  That it finds the same nuggets with the
same parts is `scan_eq_matched?`.

* `readings` — the ways to read what stands behind a key, with the arguments one by one; in
  `attempts` they stand as they are written (`attempts_eq_parses`).
* `firstCut` — the first place at which a segment can stop.  It is where `segment` stops
  (`firstCut_cut?`).
* `head?_readings` — behind a key or an argument, the separator that stands there decides how the
  nugget is read; what comes later in the order is not needed.
* `attempts_eq_nil` — where `body?` finds nothing there is no way to read a nugget.
-/

set_option autoImplicit false

namespace Localize
namespace Nugget

open Text (Clear)

/-! ## The pattern -/

/-- The ways to read a segment, the shortest first: the segment and the rest of the text. -/
def segments : Text → List (Text × Text)
  | [] => []
  | c :: t =>
    if Text.startsWith closeMark (c :: t) then []
    else ([c], t) :: (segments t).map (Prod.map (c :: ·) id)

/-- The ways to read a mark and a segment behind it. -/
def markedSegments (mark t : Text) : List (Text × Text) := (Text.after? mark t).elim [] segments

theorem of_mem_segments {t : Text} {s : Text × Text} (h : s ∈ segments t) :
    s.1 ≠ [] ∧ t = s.1 ++ s.2 := by
  induction t generalizing s with
  | nil => cases h
  | cons c t ih =>
    rw [segments] at h
    split at h
    · cases h
    · rcases List.mem_cons.1 h with rfl | h
      · exact ⟨List.cons_ne_nil c [], rfl⟩
      · obtain ⟨s', hs', rfl⟩ := List.mem_map.1 h
        have hrest := (ih hs').2
        exact ⟨List.cons_ne_nil c s'.1, congrArg (c :: ·) hrest⟩

theorem of_mem_markedSegments {mark t : Text} {s : Text × Text} (h : s ∈ markedSegments mark t) :
    s.1 ≠ [] ∧ t = mark ++ (s.1 ++ s.2) := by
  rw [markedSegments] at h
  cases hafter : Text.after? mark t with
  | none => rw [hafter] at h; cases h
  | some rest =>
    rw [hafter] at h
    obtain ⟨hne, rfl⟩ := of_mem_segments h
    exact ⟨hne, Text.after?_eq_some_iff.1 hafter⟩

theorem length_lt_of_mem_markedSegments {mark t : Text} {s : Text × Text}
    (h : s ∈ markedSegments mark t) : s.2.length < t.length := by
  obtain ⟨hne, rfl⟩ := of_mem_markedSegments h
  have hpos := List.length_pos_iff.2 hne
  simp only [List.length_append]
  omega

/-- What is read behind the key: the arguments with their marks, the comment, and the rest of the
text behind the closing mark. -/
abbrev Ending := Text × Option Text × Text

/-- The closing mark, read behind a comment or none. -/
def closed (comment : Option Text) (t : Text) : List Ending :=
  (Text.after? closeMark t).toList.map fun rest => ([], comment, rest)

/-- The ways to read a comment and the closing mark, or else the closing mark alone. -/
def closings (t : Text) : List Ending :=
  ((markedSegments commentMark t).flatMap fun s => closed (some s.1) s.2) ++ closed none t

/-- The ways to read what stands behind a key: one more argument and an ending behind it, or else
a closing. -/
def endings (t : Text) : List Ending :=
  ((markedSegments argumentMark t).attach.flatMap fun s =>
    (endings s.1.2).map (Prod.map (argumentMark ++ s.1.1 ++ ·) id)) ++ closings t
termination_by t.length
decreasing_by exact length_lt_of_mem_markedSegments s.2

theorem endings_eq (t : Text) :
    endings t = ((markedSegments argumentMark t).flatMap fun s =>
      (endings s.2).map (Prod.map (argumentMark ++ s.1 ++ ·) id)) ++ closings t := by
  rw [endings]
  congr 1
  conv => rhs; rw [← List.attach_map_subtype_val (markedSegments argumentMark t)]
  rw [List.flatMap_map]

/-- The arguments and the comment that are read behind the key, and the rest of the text behind the
closing mark. -/
abbrev Reading := List Text × Option Text × Text

/-- The ways to read what stands behind a key, in the order of `endings`, with the arguments one by
one. -/
def readings (t : Text) : List Reading :=
  ((markedSegments argumentMark t).attach.flatMap fun s =>
    (readings s.1.2).map (Prod.map (s.1.1 :: ·) id)) ++ (closings t).map (Prod.map (fun _ => []) id)
termination_by t.length
decreasing_by exact length_lt_of_mem_markedSegments s.2

theorem readings_eq (t : Text) :
    readings t = ((markedSegments argumentMark t).flatMap fun s =>
      (readings s.2).map (Prod.map (s.1 :: ·) id)) ++
        (closings t).map (Prod.map (fun _ => []) id) := by
  rw [readings]
  congr 1
  conv => rhs; rw [← List.attach_map_subtype_val (markedSegments argumentMark t)]
  rw [List.flatMap_map]

/-- Nothing is read before a closing. -/
theorem fst_of_mem_closings {t : Text} {e : Ending} (h : e ∈ closings t) : e.1 = [] := by
  have hclosed : ∀ comment u, e ∈ closed comment u → e.1 = [] := by
    intro comment u he
    obtain ⟨rest, -, rfl⟩ := List.mem_map.1 he
    rfl
  rcases List.mem_append.1 h with h | h
  · obtain ⟨s, -, h⟩ := List.mem_flatMap.1 h
    exact hclosed _ _ h
  · exact hclosed _ _ h

/-- **The endings are the readings**, with the arguments as they are written. -/
theorem endings_eq_readings (t : Text) :
    endings t = (readings t).map (Prod.map writtenArguments id) := by
  induction hn : t.length using Nat.strongRecOn generalizing t with
  | ind n ih =>
    subst hn
    rw [endings_eq, readings_eq, List.map_append, List.map_flatMap, List.map_map]
    congr 1
    · refine congrArg List.flatten (List.map_congr_left fun s hs => ?_)
      rw [ih s.2.length (length_lt_of_mem_markedSegments hs) s.2 rfl, List.map_map, List.map_map]
      rfl
    · conv => lhs; rw [← List.map_id (closings t)]
      exact List.map_congr_left fun e he => Prod.ext (fst_of_mem_closings he) rfl

/-- The ways to read a nugget at the start of a text, with the arguments one by one. -/
def parses (t : Text) : List (Text × Reading) :=
  (markedSegments openMark t).flatMap fun s => (readings s.2).map (Prod.mk s.1)

/-- The ways to read a nugget at the start of a text: the key and what is read behind it. -/
def attempts (t : Text) : List (Text × Ending) :=
  (markedSegments openMark t).flatMap fun s => (endings s.2).map (Prod.mk s.1)

theorem attempts_eq_parses (t : Text) :
    attempts t = (parses t).map (Prod.map id (Prod.map writtenArguments id)) := by
  rw [attempts, parses, List.map_flatMap]
  refine congrArg List.flatten (List.map_congr_left fun s _ => ?_)
  rw [endings_eq_readings, List.map_map, List.map_map]
  rfl

/-- The nugget that the pattern reads at the start of a text, and the rest of the text. -/
def matched? (t : Text) : Option (Nugget × Text) :=
  (attempts t).head?.map fun (key, written, comment, rest) =>
    (⟨t.take (t.length - rest.length), key, keyOf key, argumentsOf written, comment⟩, rest)

/-! ## Where nothing can be read -/

theorem closed_eq_nil {t : Text} (h : ¬ closeMark <:+: t) (comment : Option Text) :
    closed comment t = [] := by
  rw [closed, Text.after?_eq_none_iff.2 fun hp => h hp.isInfix]
  rfl

/-- Without a closing mark there is no ending. -/
theorem endings_eq_nil {t : Text} (h : ¬ closeMark <:+: t) : endings t = [] := by
  induction hn : t.length using Nat.strongRecOn generalizing t with
  | ind n ih =>
    subst hn
    have hrest : ∀ mark, ∀ s ∈ markedSegments mark t, ¬ closeMark <:+: s.2 := by
      intro mark s hs hin
      obtain ⟨-, rfl⟩ := of_mem_markedSegments hs
      rw [← List.append_assoc] at h
      exact h (hin.trans (List.suffix_append _ s.2).isInfix)
    rw [endings_eq, closings, closed_eq_nil h, List.append_nil, List.append_eq_nil_iff]
    refine ⟨List.flatMap_eq_nil_iff.2 fun s hs => ?_, List.flatMap_eq_nil_iff.2 fun s hs => ?_⟩
    · rw [ih s.2.length (length_lt_of_mem_markedSegments hs) (hrest _ s hs) rfl, List.map_nil]
    · exact closed_eq_nil (hrest _ s hs) _

/-- **Where `body?` finds nothing** there is no way to read a nugget. -/
theorem attempts_eq_nil {t : Text} (h : body? t = none) : attempts t = [] := by
  cases hafter : Text.after? openMark t with
  | none => rw [attempts, markedSegments, hafter]; rfl
  | some u =>
    obtain rfl := Text.after?_eq_some_iff.1 hafter
    rw [attempts, markedSegments, hafter]
    rcases of_body?_openMark_append_eq_none h with hclose | ⟨v, rfl⟩
    · refine List.flatMap_eq_nil_iff.2 fun s hs => ?_
      obtain ⟨-, rfl⟩ := of_mem_segments hs
      rw [endings_eq_nil fun hin => hclose (hin.trans (List.suffix_append s.1 s.2).isInfix),
        List.map_nil]
    · rfl

/-! ## The first place to stop -/

/-- The first place in a text, behind one code point at least, where something is found; what was
passed is put before what is found. -/
def firstCut {β : Type} (found : Text → Option (Text × β)) : Text → Option (Text × β)
  | [] => none
  | c :: t => ((found t).or (firstCut found t)).map (Prod.map (c :: ·) id)

theorem firstCut_congr {β : Type} {f g : Text → Option (Text × β)} {t : Text}
    (h : ∀ a b, t = a ++ b → a ≠ [] → f b = g b) : firstCut f t = firstCut g t := by
  induction t with
  | nil => rfl
  | cons c t ih =>
    rw [firstCut, firstCut, h [c] t rfl (List.cons_ne_nil c []),
      ih fun a b ht _ => h (c :: a) b (congrArg (c :: ·) ht) (List.cons_ne_nil c a)]

theorem firstCut_map {β γ : Type} (f : β → γ) (found : Text → Option (Text × β)) (t : Text) :
    firstCut (fun u => (found u).map (Prod.map id f)) t
      = (firstCut found t).map (Prod.map id f) := by
  induction t with
  | nil => rfl
  | cons c t ih =>
    rw [firstCut, firstCut, ih, ← Option.map_or, Option.map_map, Option.map_map]
    rfl

/-- **The segments of a body** are its cuts, and the first with something behind it is the first
cut. -/
theorem findSome?_segments {β : Type} {body : Text} (h : Clear closeMark body) (rest : Text)
    (found : Text → Option (Text × β)) :
    (segments (body ++ (closeMark ++ rest))).findSome?
        (fun s => (found s.2).map (Prod.map (s.1 ++ ·) id))
      = firstCut (fun u => found (u ++ (closeMark ++ rest))) body := by
  induction body with
  | nil => rfl
  | cons c body ih =>
    rw [Text.clear_cons_iff] at h
    have hplain : ¬ Text.startsWith closeMark (c :: (body ++ (closeMark ++ rest))) = true := by
      rw [Text.startsWith_iff]
      exact h.1 _
    rw [List.cons_append, segments, if_neg hplain, List.findSome?_cons, List.findSome?_map,
      firstCut, ← ih h.2]
    cases found (body ++ (closeMark ++ rest)) with
    | some x => rfl
    | none =>
      rw [Option.none_or, List.map_findSome?]
      show List.findSome? _ _ = _
      congr 1
      funext s
      show Option.map _ (found s.2) = Option.map _ (Option.map _ (found s.2))
      rw [Option.map_map]
      rfl

/-! ## Endings -/

/-- What ends a segment where a stretch of a body is left: a separator, or that nothing is left. -/
def cut? (t : Text) : Option (Option (Separator × Text)) :=
  if t = [] then some none else (separator? t).map some

/-- **A segment stops where it first can.** -/
theorem firstCut_cut? {t : Text} (h : t ≠ []) :
    firstCut (fun u => (cut? u).map (Prod.mk [])) t = some (segment t) := by
  induction t with
  | nil => exact absurd rfl h
  | cons c t ih =>
    cases t with
    | nil => rfl
    | cons d t =>
      rw [firstCut, ih (List.cons_ne_nil d t), cut?, if_neg (List.cons_ne_nil d t)]
      cases hsep : separator? (d :: t) with
      | none => rw [segment_cons_of_none hsep]; rfl
      | some cut => rw [segment_cons_of_some hsep]; rfl

/-- A mark and a segment behind it, in a body. -/
theorem markedSegments_append {mark : Text} (hmark : CodePoint.ofChar ']' ∉ mark) (t rest : Text) :
    markedSegments mark (t ++ (closeMark ++ rest))
      = (Text.after? mark t).elim [] fun u => segments (u ++ (closeMark ++ rest)) := by
  have hafter : Text.after? mark (t ++ (closeMark ++ rest))
      = (Text.after? mark t).map (· ++ (closeMark ++ rest)) :=
    Text.after?_append_cons hmark t _
  rw [markedSegments, hafter]
  cases Text.after? mark t <;> rfl

/-- Behind a part of a body the closing mark stands at its end. -/
theorem after?_closeMark_append {t : Text} (h : Clear closeMark t) (rest : Text) :
    Text.after? closeMark (t ++ (closeMark ++ rest)) = if t = [] then some rest else none := by
  cases t with
  | nil => rfl
  | cons c t =>
    rw [if_neg (List.cons_ne_nil c t)]
    exact Text.after?_eq_none_iff.2 ((Text.clear_cons_iff.1 h).1 (closeMark ++ rest))

theorem head?_closed (comment : Option Text) (t : Text) :
    (closed comment t).head? = (Text.after? closeMark t).map fun rest => ([], comment, rest) := by
  rw [closed]
  cases Text.after? closeMark t <;> rfl

/-- A comment is as long as it can be. -/
theorem firstCut_closeMark {t : Text} (h : Clear closeMark t) (hne : t ≠ []) (rest : Text) :
    firstCut (fun u => (Text.after? closeMark (u ++ (closeMark ++ rest))).map (Prod.mk [])) t
      = some (t, rest) := by
  induction t with
  | nil => exact absurd rfl hne
  | cons c t ih =>
    have ht : Clear closeMark t := (Text.clear_cons_iff.1 h).2
    rw [firstCut, after?_closeMark_append ht]
    split
    · rename_i hnil
      rw [hnil]
      rfl
    · rename_i hcons
      rw [ih ht hcons]
      rfl

theorem findSome?_segments_closed {c : Text} (h : Clear closeMark c) (hne : c ≠ []) (rest : Text) :
    (segments (c ++ (closeMark ++ rest))).findSome? (fun s => (closed (some s.1) s.2).head?)
      = some ([], some c, rest) := by
  have hclosed : (fun s : Text × Text => (closed (some s.1) s.2).head?)
      = Option.map (fun x => ([], some x.1, x.2)) ∘ fun s =>
        ((Text.after? closeMark s.2).map (Prod.mk [])).map (Prod.map (s.1 ++ ·) id) := by
    funext s
    rw [head?_closed]
    show _ = Option.map _ (Option.map _ (Option.map _ (Text.after? closeMark s.2)))
    cases Text.after? closeMark s.2 with
    | none => rfl
    | some u => simp
  rw [hclosed, ← List.map_findSome?, findSome?_segments h rest fun u =>
    (Text.after? closeMark u).map (Prod.mk []), firstCut_closeMark h hne]
  rfl

theorem head?_closings {t : Text} (h : Clear closeMark t) (rest : Text) :
    (closings (t ++ (closeMark ++ rest))).head?
      = if t = [] then some ([], none, rest)
        else ((Text.after? commentMark t).filter (· ≠ [])).map fun c => ([], some c, rest) := by
  rw [closings, List.head?_append, List.head?_flatMap, head?_closed, after?_closeMark_append h,
    markedSegments_append (by decide)]
  cases hafter : Text.after? commentMark t with
  | none => split <;> rfl
  | some c =>
    obtain rfl := Text.after?_eq_some_iff.1 hafter
    have hmark : commentMark ++ c ≠ [] := List.cons_ne_nil _ _
    rw [if_neg hmark, if_neg hmark]
    by_cases hc : c = []
    · subst hc
      rfl
    · show ((segments (c ++ (closeMark ++ rest))).findSome? _).or none = _
      rw [findSome?_segments_closed h.of_append hc]
      simp [Option.filter, hc]

/-- How a nugget is read behind a stretch of a body, by what ends the segment there. -/
def readBehind (rest : Text) (cut : Option (Separator × Text)) : Reading :=
  ((behind cut).1, (behind cut).2, rest)

/-- **A segment and what is read behind it**, if what is read behind every cut is known. -/
theorem findSome?_segments_readings {t rest : Text} (h : Clear closeMark t) (hne : t ≠ [])
    (hcuts : ∀ a b, t = a ++ b → a ≠ [] →
      (readings (b ++ (closeMark ++ rest))).head? = (cut? b).map (readBehind rest)) :
    (segments (t ++ (closeMark ++ rest))).findSome?
        (fun s => (readings s.2).head?.map (Prod.mk s.1))
      = some ((segment t).1, readBehind rest (segment t).2) := by
  have hhead : (fun s : Text × Text => (readings s.2).head?.map (Prod.mk s.1))
      = fun s => ((readings s.2).head?.map (Prod.mk [])).map (Prod.map (s.1 ++ ·) id) := by
    funext s
    cases (readings s.2).head? with
    | none => rfl
    | some e => simp
  have hfound : firstCut (fun u => (readings (u ++ (closeMark ++ rest))).head?.map (Prod.mk [])) t
      = firstCut (fun u => ((cut? u).map (Prod.mk [])).map (Prod.map id (readBehind rest))) t := by
    refine firstCut_congr fun a b hab ha => ?_
    rw [hcuts a b hab ha, Option.map_map, Option.map_map]
    rfl
  rw [hhead, findSome?_segments h rest fun u => (readings u).head?.map (Prod.mk []), hfound,
    firstCut_map, firstCut_cut? hne]
  rfl

/-- **How a nugget is read is decided by the separator** that stands behind the key or an
argument. -/
theorem head?_readings {t : Text} (h : Clear closeMark t) (rest : Text) :
    (readings (t ++ (closeMark ++ rest))).head? = (cut? t).map (readBehind rest) := by
  -- What stands behind one more argument is shorter, so the induction is on the length.
  induction hn : t.length using Nat.strongRecOn generalizing t with
  | ind n ih =>
    subst hn
    rw [readings_eq, List.head?_append, List.head?_flatMap, List.head?_map, head?_closings h,
      markedSegments_append (by decide)]
    by_cases ht : t = []
    · subst ht
      rfl
    rw [cut?, if_neg ht, if_neg ht, separator?_eq]
    cases hafter : Text.after? argumentMark t with
    | none => cases (Text.after? commentMark t).filter (· ≠ []) <;> rfl
    | some u =>
      obtain rfl := Text.after?_eq_some_iff.1 hafter
      by_cases hu : u = []
      · subst hu
        rfl
      · -- An argument that can be read is preferred, and some ending stands behind one of its cuts.
        have hhead : (fun s : Text × Text => ((readings s.2).map (Prod.map (s.1 :: ·) id)).head?)
            = Option.map (fun x => (x.1 :: x.2.1, x.2.2)) ∘ fun s =>
              (readings s.2).head?.map (Prod.mk s.1) := by
          funext s
          show _ = Option.map _ (Option.map _ (readings s.2).head?)
          rw [List.head?_map, Option.map_map]
          rfl
        have hread := findSome?_segments_readings h.of_append hu fun a b hab ha => by
          subst hab
          refine ih b.length ?_ (Clear.of_append (Clear.of_append h)) rfl
          have hpos := List.length_pos_iff.2 ha
          simp only [List.length_append]
          omega
        have hfilter : (some u).filter (· ≠ []) = some u := by simp [Option.filter, hu]
        show ((segments (u ++ (closeMark ++ rest))).findSome? _).or _ = _
        rw [hhead, ← List.map_findSome?, hread, hfilter]
        show some _ = some ((parts u).1, (parts u).2, rest)
        rw [parts_eq]
        rfl

/-! ## The nugget that is read -/

/-- **The first way to read a body** has the key of `segment`, and the arguments and the comment
that are behind it. -/
theorem head?_parses {body : Text} (h : IsBody body) (rest : Text) :
    (parses (openMark ++ body ++ closeMark ++ rest)).head?
      = some ((segment body).1, readBehind rest (segment body).2) := by
  have hmarked : markedSegments openMark (openMark ++ body ++ closeMark ++ rest)
      = segments (body ++ (closeMark ++ rest)) := by
    rw [List.append_assoc, List.append_assoc, markedSegments, Text.after?_append]
    rfl
  have hhead : (fun s : Text × Text => ((readings s.2).map (Prod.mk s.1)).head?)
      = fun s => (readings s.2).head?.map (Prod.mk s.1) := funext fun s => List.head?_map
  rw [parses, hmarked, List.head?_flatMap, hhead]
  refine findSome?_segments_readings h.clear h.ne_nil fun a b hab _ => ?_
  subst hab
  exact head?_readings h.clear.of_append rest

theorem head?_attempts {body : Text} (h : IsBody body) (rest : Text) :
    (attempts (openMark ++ body ++ closeMark ++ rest)).head?
      = some ((segment body).1, (endOf (segment body).2).1, (endOf (segment body).2).2, rest) := by
  rw [attempts_eq_parses, List.head?_map, head?_parses h, endOf_eq_behind]
  rfl

/-- **The pattern reads what `body?` finds**, with the parts of the nugget of that body. -/
theorem matched?_eq (t : Text) :
    matched? t = (body? t).map fun body => (ofBody body, t.drop (body.length + 6)) := by
  cases hbody : body? t with
  | none => rw [matched?, attempts_eq_nil hbody]; rfl
  | some body =>
    obtain ⟨h, rest, rfl⟩ := body?_eq_some_iff.1 hbody
    have htake : (openMark ++ body ++ closeMark ++ rest).take
        ((openMark ++ body ++ closeMark ++ rest).length - rest.length)
        = openMark ++ body ++ closeMark := by
      rw [List.length_append, Nat.add_sub_cancel, List.take_left]
    rw [matched?, head?_attempts h, Option.map_some, Option.map_some, ofBody_eq,
      drop_marks_append]
    dsimp only
    rw [htake]

/-- **Scanning is searching with the pattern.**  Where the pattern reads a nugget, that nugget is
next and the search goes on behind it; where it reads none, the code point is plain. -/
theorem scan_eq_matched? (c : CodePoint) (t : Text) :
    scan (c :: t) = match matched? (c :: t) with
      | some (n, rest) => .nugget n :: scan rest
      | none => .plain c :: scan t := by
  rw [matched?_eq]
  cases hbody : body? (c :: t) with
  | none => exact scan_cons_of_none hbody
  | some body =>
    obtain ⟨h, rest, ht⟩ := body?_eq_some_iff.1 hbody
    rw [ht, scan_nugget_append h, Option.map_some, drop_marks_append]

end Nugget
end Localize
