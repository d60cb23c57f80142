import ReactiveTree.Proofs.Snippet.Scanning

/-!
# A normal form keeps the segments of its source

An accepted source and its normal form have the same segments, one for one, and each segment is
changed on its own: a literal in single quotes becomes one in double quotes, code loses the last sign
of each strict equality, and the rest is copied (`normalize_keeps_segments`). So a normal form is
accepted again, and nothing changes where there is nothing to change.

Key definitions: `Source.strictEqualities`, `Source.KeepsSegments`.
Key theorems: `Source.plainEqualities_eq_self`, `Source.normalize_keeps_segments`.
-/
namespace ReactiveTree.Source

variable {source : String} {n : Normalized} {body : List Char} {s : Segment}

/-- The comparisons that lose a sign. -/
def strictEqualities : List (List Char) := [['=', '=', '='], ['!', '=', '=']]

theorem plainEqualities_eq_self (h : ∀ e ∈ strictEqualities, ¬ e <:+: body) :
    plainEqualities body = body := by
  induction body using plainEqualities.induct with
  | case1 cs => exact absurd ⟨[], cs, rfl⟩ (h ['=', '=', '='] (by decide))
  | case2 cs => exact absurd ⟨[], cs, rfl⟩ (h ['!', '=', '='] (by decide))
  | case3 c cs hequal hnot ih =>
    have hrest : plainEqualities cs = cs :=
      ih fun e he hthere => h e he (hthere.trans (List.suffix_cons c cs).isInfix)
    rw [plainEqualities.eq_3 c cs hequal hnot, hrest]
  | case4 => rfl

theorem normalSegment_eq_self (hsingle : s.region ≠ .single)
    (hcode : s.region = .code → ∀ e ∈ strictEqualities, ¬ e <:+: s.body) :
    normalSegment s = s := by
  obtain ⟨region, body, closed⟩ := s
  cases region with
  | code => simp only [normalSegment, plainEqualities_eq_self (hcode rfl)]
  | single => exact absurd rfl hsingle
  | double => rfl
  | backtick => rfl
  | lineComment => rfl
  | blockComment => rfl

theorem flatMap_written_segments (source : String) :
    (segments source).flatMap written = source.toList :=
  (flatMap_written (region_head_cut .code source.toList)).trans (continued_cut .code source.toList)

/-- What is written for a source has its segments. -/
structure KeepsSegments (source : String) (n : Normalized) : Prop where
  /-- The segments leave out nothing of the source. -/
  whole : (segments source).flatMap written = source.toList
  /-- Their normal forms are all that is written. -/
  text : n.text.toList = ((segments source).map normalSegment).flatMap written
  /-- What is written is cut into the normal forms again. -/
  aligned : segments n.text = (segments source).map normalSegment
  /-- Other literals and comments are copied, closed or not. -/
  copied : ∀ s ∈ segments source, s.region ≠ .code → s.region ≠ .single → normalSegment s = s
  /-- What is written is accepted. -/
  again : ∃ m, normalize n.text = .ok m ∧ m.readsRoot = n.readsRoot
  /-- Nothing changes without a literal in single quotes and without a strict equality. -/
  unchanged : (∀ s ∈ segments source, s.region ≠ .single ∧
    (s.region = .code → ∀ e ∈ strictEqualities, ¬ e <:+: s.body)) → n.text = source

/-- **What is accepted keeps its segments.** -/
theorem normalize_keeps_segments (h : normalize source = .ok n) : KeepsSegments source n := by
  obtain ⟨haligned, hallowed, hroot⟩ := normalize_ok h
  have hwhole := flatMap_written_segments source
  have htext : n.text.toList = ((segments source).map normalSegment).flatMap written := by
    rw [← haligned, flatMap_written_segments]
  refine ⟨hwhole, htext, haligned, fun s _ hcode hsingle => ?_, ?_, fun hkept => ?_⟩
  · exact normalSegment_eq_self hsingle fun h => absurd h hcode
  · have hverdict : verdict (words (segments n.text)) = .ok n.readsRoot := by
      rw [haligned, words_normal]
      exact verdict_eq_ok_iff.mpr ⟨hallowed, hroot⟩
    rw [normalize_eq, render, hverdict]
    exact ⟨_, rfl, rfl⟩
  · have hself : (segments source).map normalSegment = segments source := by
      rw [List.map_congr_left fun s hs => normalSegment_eq_self (hkept s hs).1 (hkept s hs).2]
      exact List.map_id' _
    rw [hself, hwhole] at htext
    exact String.toList_injective htext

/-- Four equality signs lose one, and three are left. A quote in a comment is kept. -/
theorem normalize_keeps_segments_signs : normalize "root ==== 'it\\'s' // 'a'" =
    .ok ⟨"root === \"it's\" // 'a'", true⟩ ∧
    KeepsSegments "root ==== 'it\\'s' // 'a'" ⟨"root === \"it's\" // 'a'", true⟩ :=
  ⟨rfl, normalize_keeps_segments rfl⟩

end ReactiveTree.Source
