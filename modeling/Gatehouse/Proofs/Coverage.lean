import Gatehouse.Proofs.Governing

/-!
# Areas are made of whole segments

Whether an area covers a path is told from what the path goes on with behind it: it
may not go on at all, or go on with a slash, or the area has ended with one. This is
how the paths that have an area for their first segments are told from the others. An
area that ends with a slash asks for nothing after it, so for such an area it is enough
that the path starts with it (`covers_iff_isPrefix`); every other area covers what lies
beneath it (`covers_iff_beneath`).

Seen that way the rest follows. A segment that an area names stands whole in every path
that it covers (`segment_of_covers`). Areas inside areas cover less (`covers_trans`),
and a covered path may go on by any number of segments (`covers_append`). The empty
area and areas with a slash in an odd place are no exceptions.
-/

namespace Gatehouse.Proofs

open Gatehouse

/-! ## Two kinds of areas -/

/-- What lies beneath an area is the area itself, or goes on after it with a slash. -/
theorem beneath_iff {area path : String} :
    Beneath area path ↔
      path.toList = area.toList ∨ ∃ rest, path.toList = area.toList ++ '/' :: rest :=
  splitOn_isPrefix_iff

/-- An area that ends with a slash covers all that starts with it. -/
theorem covers_iff_isPrefix {area path : String} (h : area.toList.getLast? = some '/') :
    covers area path = true ↔ area.toList.IsPrefix path.toList := by
  refine ⟨isPrefix_of_covers, ?_⟩
  rintro ⟨rest, hrest⟩
  exact covers_iff.mpr ⟨rest, hrest.symm, .inr (.inr h)⟩

theorem segments_append (path rest : String) :
    segments (path ++ "/" ++ rest) = segments path ++ segments rest := by
  have hslash : "/".toList = ['/'] := rfl
  rw [segments, String.toList_append, String.toList_append, hslash, List.append_assoc,
    List.singleton_append, List.splitOn_append_cons_self]
  rfl

theorem beneath_append (path rest : String) : Beneath path (path ++ "/" ++ rest) := by
  rw [Beneath, segments_append]
  exact List.prefix_append _ _

/-! ## What all areas have in common -/

/-- A segment that an area names stands whole in the paths that it covers, in the same place. -/
theorem segment_of_covers {area path : String} (h : covers area path = true) {i : Nat}
    {segment : List Char} (hi : (segments area)[i]? = some segment) (hne : segment ≠ []) :
    (segments path)[i]? = some segment := by
  by_cases hslash : area.toList.getLast? = some '/'
  · -- behind the last slash the area names nothing
    obtain ⟨front, hfront⟩ := List.getLast?_eq_some_iff.mp hslash
    obtain ⟨rest, hrest⟩ := isPrefix_of_covers h
    have harea : segments area = front.splitOn '/' ++ [[]] := by
      rw [segments, hfront, List.splitOn_append_cons_self, List.splitOn_nil]
    have hpath : segments path = front.splitOn '/' ++ rest.splitOn '/' := by
      rw [segments, ← hrest, hfront, List.append_assoc, List.singleton_append,
        List.splitOn_append_cons_self]
    rw [harea] at hi
    rw [hpath]
    by_cases hlt : i < (front.splitOn '/').length
    · rw [List.getElem?_append_left hlt] at hi ⊢
      exact hi
    · rw [List.getElem?_append_right (Nat.not_lt.mp hlt)] at hi
      have hmem : segment ∈ [([] : List Char)] := List.mem_of_getElem? hi
      exact absurd (List.mem_singleton.mp hmem) hne
  · obtain ⟨more, hmore⟩ := (covers_iff_beneath hslash).mp h
    obtain ⟨hlt, _⟩ := List.getElem?_eq_some_iff.mp hi
    rw [← hmore, List.getElem?_append_left hlt]
    exact hi

/-- What an area inside another one covers, the outer one covers too. -/
theorem covers_trans {outer inner path : String} (h : covers outer inner = true)
    (h' : covers inner path = true) : covers outer path = true := by
  by_cases houter : outer.toList.getLast? = some '/'
  · rw [covers_iff_isPrefix houter] at h ⊢
    exact h.trans (isPrefix_of_covers h')
  · rw [covers_iff_beneath houter] at h ⊢
    by_cases hinner : inner.toList.getLast? = some '/'
    · -- the slash at the end of the inner area is behind the outer one
      obtain ⟨more, hmore⟩ := (covers_iff_isPrefix hinner).mp h'
      rcases beneath_iff.mp h with hsame | ⟨rest, hrest⟩
      · rw [hsame] at hinner
        exact absurd hinner houter
      · refine beneath_iff.mpr (.inr ⟨rest ++ more, ?_⟩)
        rw [← hmore, hrest, List.append_assoc, List.cons_append]
    · exact h.trans ((covers_iff_beneath hinner).mp h')

theorem covers_append {area path : String} (h : covers area path = true) (rest : String) :
    covers area (path ++ "/" ++ rest) = true := by
  by_cases hslash : area.toList.getLast? = some '/'
  · rw [covers_iff_isPrefix hslash, String.toList_append, String.toList_append, List.append_assoc]
    exact (isPrefix_of_covers h).trans (List.prefix_append _ _)
  · rw [covers_iff_beneath hslash] at h ⊢
    exact h.trans (beneath_append path rest)

/-! ## What is promised -/

/-- What is promised of a test that tells which paths lie in an area. -/
structure SegmentWise (test : String → String → Bool) : Prop where
  /-- An area that does not end with a slash is the start of the segments of its paths. -/
  segmented : ∀ area path, area.toList.getLast? ≠ some '/' →
    (test area path = true ↔ (segments area).IsPrefix (segments path))
  /-- An area that ends with a slash is the start of its paths. -/
  openEnded : ∀ area path, area.toList.getLast? = some '/' →
    (test area path = true ↔ area.toList.IsPrefix path.toList)
  /-- No segment is cut: what an area names is a segment of the path, in the same place. -/
  whole : ∀ area path, test area path = true → ∀ (i : Nat) (segment : List Char),
    (segments area)[i]? = some segment → segment ≠ [] → (segments path)[i]? = some segment
  /-- What an area inside another one covers, the outer one covers too. -/
  nested : ∀ outer inner path, test outer inner = true → test inner path = true →
    test outer path = true
  /-- With a path, all that is reached from it by further segments lies in the area. -/
  further : ∀ area path rest, test area path = true →
    segments (path ++ "/" ++ rest) = segments path ++ segments rest
      ∧ test area (path ++ "/" ++ rest) = true

/-- **Areas respect segments.** This holds of every area and every path, whether or not they start
with a slash, and whatever stands between two of them. -/
theorem covers_by_segments : SegmentWise covers where
  segmented _ _ h := covers_iff_beneath h
  openEnded _ _ h := covers_iff_isPrefix h
  whole _ _ h _ _ hi hne := segment_of_covers h hi hne
  nested _ _ _ h h' := covers_trans h h'
  further _ path rest h := ⟨segments_append path rest, covers_append h rest⟩

/-- The café has tables and no neighbours whose names start like its own. -/
theorem covers_by_segments_stray :
    covers "" "/café" = true
      ∧ covers "/café" "/café/" = true
      ∧ covers "/café/" "/café//2" = true
      ∧ covers "" "/café//2" = true
      ∧ covers "/café" "/café//2/chairs" = true
      ∧ covers "/café" "/cafés" = false := by
  obtain ⟨hsegmented, hopen, hwhole, hnested, hfurther⟩ := covers_by_segments
  have hempty : covers "" "/café" = true := (hsegmented "" "/café" (by decide)).mpr (by decide)
  have hcafe : covers "/café" "/café/" = true :=
    (hsegmented "/café" "/café/" (by decide)).mpr (by decide)
  have htable : covers "/café/" "/café//2" = true :=
    (hopen "/café/" "/café//2" (by decide)).mpr (by decide)
  have hinside := hnested _ _ _ hcafe htable
  refine ⟨hempty, hcafe, htable, hnested _ _ _ hempty hinside,
    (hfurther _ _ "chairs" hinside).2, ?_⟩
  refine Bool.eq_false_iff.mpr ?_
  intro hcov
  exact absurd (hwhole _ _ hcov 1 "café".toList (by decide) (by decide)) (by decide)

end Gatehouse.Proofs
