import Localize.Charset.Portions
import Localize.Proofs.Text.Bytes

/-!
# Portions of a text are the text

A file that is read by portions falls apart twice: its bytes into pieces, and the code points of
these into portions.  A piece may end inside a code point or inside the end of a line.  Still
nothing is lost, and nothing is read otherwise than it would be at once (`portions_utf8_cases`).

What carries this is what a reader has still to give (`TextReader.Leaves`): the code points that are
ready, and behind them the text of the bytes.  Taking a piece leaves it as it is (`refill_cases`),
as the bytes of half a code point are kept and a carriage return waits for its line feed.  So a
portion is the beginning of what there was to be read (`portion_cases`), and the portions are all of
it.  Where the bytes are no text, there is nothing that a reader could leave, and so reading them
ends in a fault.
-/

set_option autoImplicit false

namespace Localize
namespace Charset

variable {c : CodePoint} {t u v : Text} {final owes : Bool} {count fuel missing : Nat}
variable {data later : Bytes}

/-! ## Ends of lines -/

theorem unifyLineEnds_cons (h : c ≠ 0x0D ∨ t.head? ≠ some 0x0A) :
    unifyLineEnds (c :: t) = (if c = 0x0D then 0x0A else c) :: unifyLineEnds t := by
  rw [unifyLineEnds]
  rintro rest rfl rfl
  exact h.elim (fun hc => hc rfl) fun ht => ht rfl

/-- Ends of lines are unified on either side of a place, unless one of them stands across it. -/
theorem unifyLineEnds_append (h : t.getLast? ≠ some 0x0D ∨ u.head? ≠ some 0x0A) :
    unifyLineEnds (t ++ u) = unifyLineEnds t ++ unifyLineEnds u := by
  fun_induction unifyLineEnds t with
  | case1 => rfl
  | case2 rest ih =>
    have hrest : rest.getLast? ≠ some 0x0D ∨ u.head? ≠ some 0x0A :=
      h.imp_left (mt fun hlast => by rw [List.getLast?_cons, List.getLast?_cons, hlast]; rfl)
    exact congrArg (0x0A :: ·) (ih hrest)
  | case3 c rest hc ih =>
    have hrest : rest.getLast? ≠ some 0x0D ∨ u.head? ≠ some 0x0A :=
      h.imp_left (mt fun hlast => by rw [List.getLast?_cons, hlast]; rfl)
    have hhead : c ≠ 0x0D ∨ (rest ++ u).head? ≠ some 0x0A := by
      by_cases hreturn : c = 0x0D
      · subst hreturn
        refine Or.inr ?_
        cases rest with
        | nil => exact h.resolve_left fun hlast => hlast rfl
        | cons d rest => exact fun hd => hc rest rfl (by rw [Option.some.inj hd])
      · exact Or.inl hreturn
    rw [List.cons_append, unifyLineEnds_cons hhead, ih hrest, List.cons_append]

theorem length_unifyLineEnds_le (t : Text) : (unifyLineEnds t).length ≤ t.length := by
  fun_induction unifyLineEnds t with
  | case1 => exact Nat.le_refl 0
  | case2 rest ih => exact Nat.succ_le_succ (Nat.le_succ_of_le ih)
  | case3 c rest hc ih => exact Nat.succ_le_succ ih

/-! ## A piece of UTF-8 -/

/-- A piece of the bytes of a text is read. -/
theorem readUtf8_of_cut (h : Utf8.encode t = .ok (data ++ later))
    (hfinal : final = true → later = []) :
    ∃ front rest, readUtf8 final data = .ok (front, rest) := by
  cases final with
  | true =>
    rw [hfinal rfl, List.append_nil] at h
    refine ⟨t, [], ?_⟩
    rw [readUtf8, Utf8.decode_encode h]
  | false =>
    obtain ⟨hplain, hbytes⟩ := Utf8.encode_eq_ok_iff.1 h
    obtain ⟨front, left, rest, rfl, rfl, hleft, ⟨hdecode, rfl⟩ | ⟨e, hdecode, hfault, hstart⟩⟩ :=
      Utf8.decodeFrom_of_cut hplain hbytes.symm 0
    · refine ⟨front, [], ?_⟩
      rw [readUtf8, Utf8.decode, hdecode]
    · refine ⟨front, rest, ?_⟩
      rw [readUtf8, Utf8.decode, hdecode]
      dsimp only
      rw [if_pos ⟨hfault, rfl⟩, hstart, Nat.zero_add, List.take_left, List.drop_left, Utf8.decode,
        Utf8.decodeFrom_flatMap]
      exact fun c hc => hplain c (List.mem_append_left _ hc)

/-- What is read of a piece are the code points of the bytes that are not left over; at the end none
are. -/
theorem of_readUtf8 {front : Text} {rest : Bytes} (h : readUtf8 final data = .ok (front, rest)) :
    (∃ bytes, Utf8.encode front = .ok bytes ∧ data = bytes ++ rest) ∧
      (final = true → rest = []) := by
  rw [readUtf8] at h
  split at h
  · rename_i hdecode
    cases h
    exact ⟨⟨data, Utf8.decode_eq_ok_iff.1 hdecode, (List.append_nil data).symm⟩, fun _ => rfl⟩
  · rename_i e hdecode
    split at h
    · rename_i hcut
      split at h
      · rename_i hdecode
        cases h
        refine ⟨⟨_, Utf8.decode_eq_ok_iff.1 hdecode, (List.take_append_drop e.start data).symm⟩, ?_⟩
        intro hfinal
        rw [hfinal] at hcut
        cases hcut.2
      · cases h
    · cases h

theorem of_readPiece {piece : Piece} (h : readPiece .utf8 final data = .ok piece) :
    ((∃ bytes, Utf8.encode piece.text = .ok bytes ∧ data = bytes ++ piece.rest) ∧
      (final = true → piece.rest = [])) ∧ piece.charset = .utf8 := by
  change Piece.ofPart .utf8 (readUtf8 final data) = .ok piece at h
  cases hread : readUtf8 final data with
  | error e =>
    rw [hread] at h
    cases h
  | ok part =>
    rw [hread] at h
    cases h
    exact ⟨of_readUtf8 hread, rfl⟩

namespace TextReader

variable {r r' r'' : TextReader}

/-! ## What is left -/

/-- A carriage return that waits. -/
def waiting (owes : Bool) : Text := if owes then [0x0D] else []

/-- The code points that are left are those of a text: the ones that are there, and what the bytes
behind them stand for, with its ends of lines unified. -/
def Leaves (r : TextReader) (u : Text) : Prop :=
  ∃ t, Utf8.encode t = .ok (r.kept ++ r.bytes) ∧
    u = r.ready ++ unifyLineEnds (waiting r.owesReturn ++ t)

/-- At most so many code points are left. -/
def size (r : TextReader) : Nat :=
  r.ready.length + (waiting r.owesReturn).length + r.kept.length + r.bytes.length

/-- Nothing is left behind the code points that are there. -/
structure Spent (r : TextReader) : Prop where
  bytes : r.bytes = []
  kept : r.kept = []
  owesReturn : r.owesReturn = false

/-- From one place to a later one there is a text, and what is left at the first place is this text
and what is left at the second. -/
structure Gives (r : TextReader) (t : Text) (r' : TextReader) : Prop where
  charset : r'.charset = r.charset
  leaves : ∀ u, r.Leaves u ↔ ∃ v, u = t ++ v ∧ r'.Leaves v
  size : t.length + r'.size ≤ r.size

theorem Gives.trans (h : Gives r t r') (h' : Gives r' u r'') : Gives r (t ++ u) r'' where
  charset := h'.charset.trans h.charset
  leaves w := by
    rw [h.leaves]
    constructor
    · rintro ⟨v, rfl, hv⟩
      obtain ⟨v', rfl, hv'⟩ := (h'.leaves v).1 hv
      exact ⟨v', (List.append_assoc t u v').symm, hv'⟩
    · rintro ⟨v', rfl, hv'⟩
      exact ⟨u ++ v', List.append_assoc t u v', (h'.leaves _).2 ⟨v', rfl, hv'⟩⟩
  size := by
    have hsize := h.size
    have hsize' := h'.size
    rw [List.length_append]
    omega

/-- Where no text is left, none was left before. -/
theorem Gives.not_leaves (h : Gives r t r') (hnone : ∀ v, ¬ r'.Leaves v) (u : Text) :
    ¬ r.Leaves u := by
  intro hu
  obtain ⟨v, -, hv⟩ := (h.leaves u).1 hu
  exact hnone v hv

theorem Spent.leaves (h : r.Spent) (hready : r.ready = []) : r.Leaves [] := by
  refine ⟨[], ?_, ?_⟩
  · rw [h.bytes, h.kept]
    rfl
  · rw [hready, h.owesReturn]
    rfl

/-- Code points that are there are given. -/
theorem gives_take (r : TextReader) (n : Nat) :
    Gives r (r.ready.take n) { r with ready := r.ready.drop n } where
  charset := rfl
  leaves u := by
    constructor
    · rintro ⟨t, ht, rfl⟩
      refine ⟨_, ?_, t, ht, rfl⟩
      rw [← List.append_assoc, List.take_append_drop]
    · rintro ⟨_, rfl, t, ht, rfl⟩
      refine ⟨t, ht, ?_⟩
      rw [← List.append_assoc, List.take_append_drop]
  size := by
    have hlength := congrArg List.length (List.take_append_drop n r.ready)
    rw [List.length_append] at hlength
    dsimp only [size]
    omega

/-! ## A piece is taken -/

theorem nextSize_pos (r : TextReader) (missing : Nat) : 0 < r.nextSize missing := by
  have hpiece : 0 < pieceSize := by decide
  rw [nextSize]
  split
  · exact Nat.lt_of_lt_of_le hpiece (Nat.le_max_left _ _)
  · exact hpiece

/-- Nothing is lost of what waited and what comes, and ends of lines are unified on either side of
the place behind it, since none stands across it. -/
theorem exists_release (final owes : Bool) (t : Text) :
    ∃ text owes', release final owes t = (text, owes') ∧
      waiting owes ++ t = text ++ waiting owes' ∧ (final = true → owes' = false) ∧
      ∀ u, (final = true → u = []) →
        unifyLineEnds (waiting owes ++ (t ++ u))
          = unifyLineEnds text ++ unifyLineEnds (waiting owes' ++ u) := by
  have htext : (if owes then 0x0D :: t else t) = waiting owes ++ t := by cases owes <;> rfl
  rw [release, htext]
  cases final with
  | true =>
    refine ⟨_, _, rfl, (List.append_nil _).symm, fun _ => rfl, fun u hu => ?_⟩
    rw [hu rfl, List.append_nil]
    exact (List.append_nil _).symm
  | false =>
    by_cases hlast : (waiting owes ++ t).getLast? = some 0x0D
    · obtain ⟨front, hfront⟩ := List.getLast?_eq_some_iff.1 hlast
      refine ⟨front, true, ?_, hfront, nofun, fun u _ => ?_⟩
      · rw [hfront, List.dropLast_concat]
        exact if_pos (decide_eq_true (hfront ▸ hlast))
      · rw [← List.append_assoc, hfront, List.append_assoc]
        exact unifyLineEnds_append (Or.inr fun h => by cases h)
    · refine ⟨_, _, if_neg fun h => hlast (of_decide_eq_true h), (List.append_nil _).symm, nofun,
        fun u _ => ?_⟩
      rw [← List.append_assoc]
      exact unifyLineEnds_append (Or.inl hlast)

/-- A piece that is taken. -/
theorem refill_of_readPiece {piece : Piece} {text : Text}
    (hfinal : (r.bytes.take (r.nextSize missing)).isEmpty = final)
    (h : readPiece r.charset final (r.kept ++ r.bytes.take (r.nextSize missing)) = .ok piece)
    (hrelease : release final r.owesReturn piece.text = (text, owes)) :
    ∃ density, r.refill missing = .ok (!final || unifyLineEnds text ≠ [],
      { charset := piece.charset, bytes := r.bytes.drop (r.nextSize missing), kept := piece.rest,
        owesReturn := owes, ready := unifyLineEnds text, density }) := by
  rw [refill]
  dsimp only
  rw [hfinal, h]
  dsimp only [bind, Except.bind]
  rw [hrelease]
  exact ⟨_, rfl⟩

/-- The end of the bytes is a piece with nothing in it. -/
theorem isEmpty_take_eq_true (h : (r.bytes.take (r.nextSize missing)).isEmpty = true) :
    r.bytes = [] := by
  have hsize := r.nextSize_pos missing
  exact (List.take_eq_nil_iff.1 (List.isEmpty_iff.1 h)).resolve_left (Nat.ne_of_gt hsize)

/-- A piece with something in it leaves fewer bytes. -/
theorem length_drop_lt (h : (r.bytes.take (r.nextSize missing)).isEmpty = false) :
    (r.bytes.drop (r.nextSize missing)).length < r.bytes.length := by
  have hsize := r.nextSize_pos missing
  have hne : r.bytes ≠ [] := by
    intro hnil
    rw [hnil, List.take_nil] at h
    cases h
  have hpos := List.length_pos_iff.2 hne
  rw [List.length_drop]
  omega

/-- Nothing is given where the bytes of a text are read, if the ends of lines come out the same. -/
theorem gives_nil {front : Bytes} (hcharset : r'.charset = r.charset) (hready : r.ready = [])
    (hfront : Utf8.encode t = .ok front)
    (hbytes : r.kept ++ r.bytes = front ++ (r'.kept ++ r'.bytes))
    (hlength : r'.ready.length + (waiting r'.owesReturn).length
      ≤ (waiting r.owesReturn).length + t.length)
    (hlines : ∀ u, Utf8.encode u = .ok (r'.kept ++ r'.bytes) →
      unifyLineEnds (waiting r.owesReturn ++ (t ++ u))
        = r'.ready ++ unifyLineEnds (waiting r'.owesReturn ++ u)) : Gives r [] r' where
  charset := hcharset
  leaves u := by
    constructor
    · rintro ⟨w, hw, rfl⟩
      rw [hbytes, Utf8.encode_eq_ok_append_iff hfront] at hw
      obtain ⟨v, rfl, hv⟩ := hw
      refine ⟨_, rfl, v, hv, ?_⟩
      rw [hready, hlines v hv]
      rfl
    · rintro ⟨_, rfl, v, hv, rfl⟩
      refine ⟨t ++ v, ?_, ?_⟩
      · rw [hbytes]
        exact (Utf8.encode_eq_ok_append_iff hfront).2 ⟨v, rfl, hv⟩
      · rw [hready, hlines v hv]
        rfl
  size := by
    have hlengths := congrArg List.length hbytes
    have hread := Utf8.length_le_of_encode hfront
    simp only [List.length_append] at hlengths
    dsimp only [size]
    rw [hready, List.length_nil]
    omega

/-- What taking a piece comes to. -/
structure Taken (r : TextReader) (more : Bool) (r' : TextReader) : Prop where
  gives : Gives r [] r'
  /-- There are fewer pieces, and behind the last one there is nothing. -/
  fewer : r.bytes = [] ∧ r'.Spent ∨ r'.bytes.length < r.bytes.length
  of_spent (h : r.Spent) : more = false
  spent (h : more = false) : r'.Spent ∧ r'.ready = []

/-- **A piece that is taken** leaves what there was to be read. -/
theorem refill_of_ok {piece : Piece} (hcharset : r.charset = .utf8) (hready : r.ready = [])
    (hfinal : (r.bytes.take (r.nextSize missing)).isEmpty = final)
    (h : readPiece r.charset final (r.kept ++ r.bytes.take (r.nextSize missing)) = .ok piece) :
    ∃ more r', r.refill missing = .ok (more, r') ∧ Taken r more r' := by
  obtain ⟨text, owes, hrelease, htext, hend, hlines⟩ :=
    exists_release final r.owesReturn piece.text
  obtain ⟨density, hrefill⟩ := refill_of_readPiece hfinal h hrelease
  rw [hcharset] at h
  obtain ⟨⟨⟨front, hfront, hbytes⟩, hrest⟩, hpiece⟩ := of_readPiece h
  have hspent : final = true → r.bytes = [] ∧ Spent ⟨piece.charset,
      r.bytes.drop (r.nextSize missing), piece.rest, owes, unifyLineEnds text, density⟩ := by
    intro htrue
    have hnil := isEmpty_take_eq_true (hfinal.trans htrue)
    refine ⟨hnil, ?_, hrest htrue, hend htrue⟩
    dsimp only
    rw [hnil, List.drop_nil]
  have hgives : Gives r [] ⟨piece.charset, r.bytes.drop (r.nextSize missing), piece.rest, owes,
      unifyLineEnds text, density⟩ := by
    refine gives_nil (hpiece.trans hcharset.symm) hready hfront ?_ ?_ fun u hu => hlines u ?_
    · rw [← List.append_assoc, ← hbytes, List.append_assoc, List.take_append_drop]
    · have hlengths := congrArg List.length htext
      have hunified := length_unifyLineEnds_le text
      rw [List.length_append, List.length_append] at hlengths
      dsimp only
      omega
    · intro htrue
      obtain ⟨-, hspent⟩ := hspent htrue
      rw [hspent.kept, hspent.bytes] at hu
      exact List.length_eq_zero_iff.1 (Nat.le_zero.1 (Utf8.length_le_of_encode hu))
  refine ⟨_, _, hrefill, hgives, ?_, fun h => ?_, fun hmore => ?_⟩
  · cases final with
    | true => exact Or.inl (hspent rfl)
    | false => exact Or.inr (length_drop_lt hfinal)
  · -- where nothing is left, nothing can be ready
    have hsize : r.size = 0 := by rw [size, hready, h.bytes, h.kept, h.owesReturn]; rfl
    have hnone := hgives.size
    rw [hsize, size] at hnone
    rw [h.bytes, List.take_nil] at hfinal
    have hnil : unifyLineEnds text = [] := List.eq_nil_of_length_eq_zero (by
      dsimp only at hnone
      omega)
    rw [← hfinal, hnil]
    rfl
  · rw [Bool.or_eq_false_iff, Bool.not_eq_false', decide_eq_false_iff_not,
      Decidable.not_not] at hmore
    exact ⟨(hspent hmore.1).2, hmore.2⟩

/-- A piece that is not taken is none of a text. -/
theorem not_leaves_of_readPiece {fault : Fault} (hcharset : r.charset = .utf8)
    (hfinal : (r.bytes.take (r.nextSize missing)).isEmpty = final)
    (h : readPiece r.charset final (r.kept ++ r.bytes.take (r.nextSize missing)) = .error fault)
    (u : Text) : ¬ r.Leaves u := by
  rintro ⟨t, ht, -⟩
  rw [← List.take_append_drop (r.nextSize missing) r.bytes, ← List.append_assoc] at ht
  obtain ⟨front, rest, hread⟩ := readUtf8_of_cut ht fun htrue => by
    rw [isEmpty_take_eq_true (hfinal.trans htrue), List.drop_nil]
  rw [hcharset] at h
  change Piece.ofPart .utf8 (readUtf8 final _) = .error fault at h
  rw [hread] at h
  cases h

/-- **A step of the reader.**  A piece is taken and leaves what there was to be read, or the bytes
are not those of a text. -/
theorem refill_cases (hcharset : r.charset = .utf8) (hready : r.ready = []) (missing : Nat) :
    (∃ more r', r.refill missing = .ok (more, r') ∧ Taken r more r') ∨
      (∃ fault, r.refill missing = .error fault) ∧ ∀ u, ¬ r.Leaves u := by
  cases hpiece : readPiece r.charset (r.bytes.take (r.nextSize missing)).isEmpty
      (r.kept ++ r.bytes.take (r.nextSize missing)) with
  | ok piece => exact Or.inl (refill_of_ok hcharset hready rfl hpiece)
  | error fault =>
    refine Or.inr ⟨⟨fault, ?_⟩, not_leaves_of_readPiece hcharset rfl hpiece⟩
    rw [refill, hpiece]
    rfl

/-! ## Portions -/

/-- So many pieces are more than there are. -/
def Suffices (r : TextReader) (fuel : Nat) : Prop :=
  r.bytes.length + 2 ≤ fuel ∨ r.Spent ∧ 0 < fuel

theorem Taken.suffices (h : Taken r true r') (hfuel : r.Suffices (fuel + 1)) :
    r'.Suffices fuel := by
  rcases hfuel with hfuel | ⟨hspent, -⟩
  · rcases h.fewer with ⟨-, hspent⟩ | hfewer
    · exact Or.inr ⟨hspent, by omega⟩
    · exact Or.inl (by omega)
  · cases h.of_spent hspent

/-- **A portion** is what comes next, and only at the end there is less than was asked for. -/
theorem portion_cases (hcharset : r.charset = .utf8) (hfuel : r.Suffices fuel) (count : Nat) :
    (∃ text r', r.portion fuel count = .ok (text, r') ∧ Gives r text r' ∧
        (text.length < count → r'.Leaves [])) ∨
      (∃ fault, r.portion fuel count = .error fault) ∧ ∀ u, ¬ r.Leaves u := by
  induction fuel generalizing r count with
  | zero => exact absurd hfuel (by rintro (h | ⟨-, h⟩) <;> omega)
  | succ fuel ih =>
    have htake := gives_take r count
    rw [portion]
    dsimp only
    split
    · exact Or.inl ⟨_, _, rfl, htake, fun hless => by omega⟩
    · rename_i hmissing
      -- all that is ready is given, and more has to come
      have hready : r.ready.drop count = [] := by
        rw [List.length_take] at hmissing
        exact List.drop_eq_nil_of_le (by omega)
      rcases refill_cases (r := { r with ready := r.ready.drop count }) hcharset hready
          (count - (r.ready.take count).length) with
        ⟨more, r', hrefill, htaken⟩ | ⟨⟨fault, hrefill⟩, hnone⟩
      · have hstep := htake.trans htaken.gives
        rw [List.append_nil] at hstep
        rw [hrefill]
        dsimp only [bind, Except.bind]
        cases more with
        | false =>
          obtain ⟨hspent, hready'⟩ := htaken.spent rfl
          exact Or.inl ⟨_, _, rfl, hstep, fun _ => hspent.leaves hready'⟩
        | true =>
          have hfuel' : r'.Suffices fuel := htaken.suffices <| hfuel.imp_right fun hspent =>
            ⟨⟨hspent.1.bytes, hspent.1.kept, hspent.1.owesReturn⟩, hspent.2⟩
          rw [if_pos rfl]
          rcases ih (hstep.charset.trans hcharset) hfuel' (count - (r.ready.take count).length) with
            ⟨rest, r'', hportion, hgives, hshort⟩ | ⟨⟨fault, hportion⟩, hnone⟩
          · rw [hportion]
            refine Or.inl ⟨_, r'', rfl, hstep.trans hgives, fun hless => hshort ?_⟩
            dsimp only at hless
            rw [List.length_append] at hless
            omega
          · rw [hportion]
            exact Or.inr ⟨⟨fault, rfl⟩, hstep.not_leaves hnone⟩
      · rw [hrefill]
        exact Or.inr ⟨⟨fault, rfl⟩, htake.not_leaves hnone⟩

/-- **The portions up to the end** are the text that is left; if none is left, there is a fault
behind them. -/
theorem portions_cases (hcharset : r.charset = .utf8) (hcount : 0 < count)
    (hfuel : r.size < fuel) :
    (∃ texts, portions count fuel r = (texts, none) ∧ r.Leaves texts.flatten) ∨
      (∃ texts fault, portions count fuel r = (texts, some fault)) ∧ ∀ u, ¬ r.Leaves u := by
  induction fuel generalizing r with
  | zero => omega
  | succ fuel ih =>
    rw [portions]
    rcases portion_cases hcharset (Or.inl (Nat.le_succ _)) count with
      ⟨text, r', hportion, hgives, hshort⟩ | ⟨⟨fault, hportion⟩, hnone⟩
    · rw [hportion]
      cases text with
      | nil => exact Or.inl ⟨[], rfl, (hgives.leaves []).2 ⟨[], rfl, hshort hcount⟩⟩
      | cons c text =>
        have hsize := hgives.size
        rw [List.length_cons] at hsize
        dsimp only
        rcases ih (hgives.charset.trans hcharset) (by omega) with
          ⟨texts, hportions, hleaves⟩ | ⟨⟨texts, fault, hportions⟩, hnone⟩
        · rw [hportions]
          exact Or.inl ⟨(c :: text) :: texts, rfl, (hgives.leaves _).2 ⟨_, rfl, hleaves⟩⟩
        · rw [hportions]
          exact Or.inr ⟨⟨(c :: text) :: texts, fault, rfl⟩, hgives.not_leaves hnone⟩
    · rw [hportion]
      exact Or.inr ⟨⟨[], fault, rfl⟩, hnone⟩

end TextReader

variable {bytes : Bytes}

/-- **A file that is a text is read as that text**, with its ends of lines unified, however it falls
into pieces and portions; and in a file that is none something is found to be wrong. -/
theorem portions_utf8_cases (hcount : 0 < count) (bytes : Bytes) :
    (∃ texts t, portions .utf8 count bytes = (texts, none) ∧ Utf8.decode bytes = .ok t ∧
        texts.flatten = unifyLineEnds t) ∨
      (∃ texts fault, portions .utf8 count bytes = (texts, some fault)) ∧
        ∀ t, Utf8.decode bytes ≠ .ok t := by
  have hsize : TextReader.size { charset := .utf8, bytes } < bytes.length + 3 := by
    change 0 + 0 + 0 + bytes.length < bytes.length + 3
    omega
  rcases TextReader.portions_cases rfl hcount hsize with
    ⟨texts, hportions, t, ht, hflatten⟩ | ⟨hportions, hnone⟩
  · exact Or.inl ⟨texts, t, hportions, Utf8.decode_eq_ok_iff.2 ht, hflatten⟩
  · exact Or.inr ⟨hportions, fun t ht => hnone _ ⟨t, Utf8.decode_eq_ok_iff.1 ht, rfl⟩⟩

end Charset
end Localize
