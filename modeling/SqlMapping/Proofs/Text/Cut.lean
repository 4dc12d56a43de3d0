import SqlMapping.Proofs.Text.Trim
import SqlMapping.Text.Cut

/-! # Texts cut to a number of bytes

The places where a text may be cut are the positions of its string: the numbers of bytes after
which no character is divided. A cut stands at the last of them that is not past the limit. -/

namespace SqlMapping.Text

variable {cs ds : List Char} {max : Nat}

/-! ## Bytes -/

@[simp] theorem byteLength_nil : byteLength [] = 0 := rfl

@[simp] theorem byteLength_cons (c : Char) (cs : List Char) :
    byteLength (c :: cs) = c.utf8Size + byteLength cs := rfl

@[simp] theorem byteLength_append (cs ds : List Char) :
    byteLength (cs ++ ds) = byteLength cs + byteLength ds := by
  induction cs with
  | nil => simp
  | cons c cs ih => simp [ih, Nat.add_assoc]

theorem utf8ByteSize_ofList (cs : List Char) :
    (String.ofList cs).utf8ByteSize = byteLength cs := by
  induction cs with
  | nil => simp
  | cons c cs ih =>
      rw [byteLength_cons, ← ih, ← String.utf8ByteSize_singleton, ← String.utf8ByteSize_append,
        String.singleton_eq_ofList, ← String.ofList_append, List.singleton_append]

theorem byteLength_toList (s : String) : byteLength s.toList = s.utf8ByteSize := by
  rw [← utf8ByteSize_ofList, String.ofList_toList]

theorem byteLength_le_of_isPrefix (h : ds <+: cs) : byteLength ds ≤ byteLength cs := by
  obtain ⟨rest, rfl⟩ := h
  rw [byteLength_append]
  exact Nat.le_add_right _ _

/-! ## Cuts -/

/-- A cut begins with just what begins the text and fits. -/
theorem prefix_cut_iff : ds <+: cut max cs ↔ ds <+: cs ∧ byteLength ds ≤ max := by
  induction cs generalizing max ds with
  | nil =>
      rw [cut, List.prefix_nil]
      exact ⟨fun h => ⟨h, by simp [h]⟩, And.left⟩
  | cons c cs ih =>
      cases ds with
      | nil => simp
      | cons d ds =>
          by_cases hc : c.utf8Size ≤ max
          · rw [cut, if_pos hc, List.cons_prefix_cons, List.cons_prefix_cons, ih, byteLength_cons]
            constructor
            · rintro ⟨rfl, hprefix, hfits⟩
              exact ⟨⟨rfl, hprefix⟩, by omega⟩
            · rintro ⟨⟨rfl, hprefix⟩, hfits⟩
              exact ⟨rfl, hprefix, by omega⟩
          · rw [cut, if_neg hc, List.prefix_nil, List.cons_prefix_cons, byteLength_cons]
            constructor
            · intro h
              cases h
            · rintro ⟨⟨rfl, -⟩, hfits⟩
              omega

theorem cut_isPrefix (max : Nat) (cs : List Char) : cut max cs <+: cs :=
  (prefix_cut_iff.mp List.prefix_rfl).1

theorem byteLength_cut_le (max : Nat) (cs : List Char) : byteLength (cut max cs) ≤ max :=
  (prefix_cut_iff.mp List.prefix_rfl).2

/-- A text that fits stays whole. -/
theorem cut_eq_self (h : byteLength cs ≤ max) : cut max cs = cs :=
  (cut_isPrefix max cs).eq_of_length_le (prefix_cut_iff.mpr ⟨List.prefix_rfl, h⟩).length_le

@[simp] theorem toList_cutTo (max : Nat) (s : String) :
    (cutTo max s).toList = cut max s.toList :=
  String.toList_ofList

/-! ## Positions -/

/-- A text begins with what is before one of its positions, and with nothing else. -/
theorem prefix_iff_exists_pos {s t : String} :
    t.toList <+: s.toList ↔ ∃ p : s.Pos, (s.sliceTo p).copy = t := by
  constructor
  · rintro ⟨rest, h⟩
    have hs : s = t ++ String.ofList rest := by
      apply String.toList_inj.mp
      rw [String.toList_append, String.toList_ofList, h]
    exact ⟨_, (String.Pos.splits_ofEqAppend hs).copy_sliceTo_eq⟩
  · rintro ⟨p, rfl⟩
    refine ⟨(s.sliceFrom p).copy.toList, ?_⟩
    rw [← String.toList_append, String.sliceTo_append_sliceFrom]

theorem utf8ByteSize_sliceTo {s : String} (p : s.Pos) :
    (s.sliceTo p).copy.utf8ByteSize = p.offset.byteIdx := by
  rw [p.splits.offset_eq_rawEndPos, String.byteIdx_rawEndPos]

/-- What is before `p` is `t`, of at most `max` bytes, and no position after `p` is within
`max` bytes. -/
structure CutsAt (max : Nat) (s : String) (p : s.Pos) (t : String) : Prop where
  beginning : (s.sliceTo p).copy = t
  fits : t.utf8ByteSize ≤ max
  latest : ∀ q : s.Pos, q.offset.byteIdx ≤ max → q ≤ p

theorem exists_cutsAt (max : Nat) (s : String) : ∃ p, CutsAt max s p (cutTo max s) := by
  have hprefix : (cutTo max s).toList <+: s.toList := by
    rw [toList_cutTo]
    exact cut_isPrefix max s.toList
  obtain ⟨p, hp⟩ := prefix_iff_exists_pos.mp hprefix
  refine ⟨p, hp, ?_, fun q hq => ?_⟩
  · rw [cutTo, utf8ByteSize_ofList]
    exact byteLength_cut_le max s.toList
  · -- what is before `q` begins the text and fits, so that the cut begins with it
    have hbegins : (s.sliceTo q).copy.toList <+: s.toList := prefix_iff_exists_pos.mpr ⟨q, rfl⟩
    have hfits : byteLength (s.sliceTo q).copy.toList ≤ max := by
      rwa [byteLength_toList, utf8ByteSize_sliceTo]
    have hle := byteLength_le_of_isPrefix (prefix_cut_iff.mpr ⟨hbegins, hfits⟩)
    rw [← toList_cutTo, ← hp, byteLength_toList, byteLength_toList, utf8ByteSize_sliceTo,
      utf8ByteSize_sliceTo] at hle
    exact hle

/-! ## Abridged texts -/

theorem abridged_of_le {s : String} (h : s.utf8ByteSize ≤ quotedBytes) :
    EndTrimmed s.toList (abridged s).toList := by
  rw [abridged, cut_eq_self (by rwa [byteLength_toList]), if_neg (Nat.not_lt.mpr h),
    String.append_empty, String.toList_ofList]
  exact endTrimmed_iff.mpr rfl

theorem abridged_of_lt {s : String} (h : quotedBytes < s.utf8ByteSize) :
    ∃ p : s.Pos, abridged s = (s.sliceTo p).copy ++ "..." ∧
      EndTrimmed (cutTo quotedBytes s).toList (s.sliceTo p).copy.toList := by
  have hprefix : (String.ofList (trimEnd (cut quotedBytes s.toList))).toList <+: s.toList := by
    rw [String.toList_ofList]
    exact (trimEnd_isPrefix _).trans (cut_isPrefix _ _)
  obtain ⟨p, hp⟩ := prefix_iff_exists_pos.mp hprefix
  refine ⟨p, ?_, endTrimmed_iff.mpr ?_⟩
  · rw [hp, abridged, if_pos h]
  · rw [hp, String.toList_ofList, toList_cutTo]

/-- The ellipsis takes the last three bytes. -/
theorem utf8ByteSize_abridged_le (s : String) : (abridged s).utf8ByteSize ≤ quotedBytes + 3 := by
  have hcut := (byteLength_le_of_isPrefix (trimEnd_isPrefix _)).trans
    (byteLength_cut_le quotedBytes s.toList)
  have hdots : (if s.utf8ByteSize > quotedBytes then "..." else "").utf8ByteSize ≤ 3 := by
    split <;> decide
  rw [abridged, String.utf8ByteSize_append, utf8ByteSize_ofList]
  exact Nat.add_le_add hcut hdots

/-- A cut keeps all that is before the last position within the limit. A message quotes a text of
at most 497 bytes without the blanks at its end, and of a longer one what is before one of its
positions, with an ellipsis: its cut, without the blanks at the end of that. -/
theorem cuts_at_last_boundary (s : String) :
    (∀ max, ∃ p : s.Pos, CutsAt max s p (cutTo max s)) ∧
      (abridged s).utf8ByteSize ≤ 500 ∧
      (s.utf8ByteSize ≤ 497 → EndTrimmed s.toList (abridged s).toList) ∧
      (497 < s.utf8ByteSize → ∃ p : s.Pos, abridged s = (s.sliceTo p).copy ++ "..." ∧
        EndTrimmed (cutTo 497 s).toList (s.sliceTo p).copy.toList) :=
  ⟨fun max => exists_cutsAt max s, utf8ByteSize_abridged_le s, abridged_of_le, abridged_of_lt⟩

/-- A query with a blank as its 496th byte and a character of three bytes after it. -/
def usersQuery : List Char :=
  "select ".toList ++ List.replicate 488 'a' ++ " 用户 from t".toList

theorem cuts_at_last_boundary_users :
    497 < (String.ofList usersQuery).utf8ByteSize ∧
      (cutTo 497 (String.ofList usersQuery)).utf8ByteSize = 496 ∧
      abridged (String.ofList usersQuery) =
        String.ofList ("select ".toList ++ List.replicate 488 'a') ++ "..." := by
  have hlong : 497 < (String.ofList usersQuery).utf8ByteSize := by
    rw [utf8ByteSize_ofList]
    decide +kernel
  have htext : trimEnd (cut 497 usersQuery) = "select ".toList ++ List.replicate 488 'a' := by
    decide +kernel
  obtain ⟨p, hp, htrimmed⟩ := (cuts_at_last_boundary (String.ofList usersQuery)).2.2.2 hlong
  refine ⟨hlong, ?_, ?_⟩
  · rw [cutTo, utf8ByteSize_ofList, String.toList_ofList]
    decide +kernel
  · rw [hp, ← String.ofList_toList (s := (String.sliceTo _ p).copy),
      ← endTrimmed_iff.mp htrimmed, toList_cutTo, String.toList_ofList, htext]

end SqlMapping.Text
