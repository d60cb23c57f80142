import ReactiveTree.Path
import Mathlib.Data.List.Basic
import Mathlib.Data.List.TakeDrop
import Mathlib.Data.List.TakeWhile

/-!
# Paths and their segments

A path is written by joining segments, one after another, to the empty path, and read by cutting
its text at the points. Keys that a path can address have no point in them and are not empty, so
what was joined is what is read (`split_ofSegments`), and no two lists of such keys have the same
path (`ofSegments_injective`). Whatever text splits, it splits into such keys
(`validKeys_of_split`), and it is the path that they are joined to (`ofSegments_of_split`). The
decimal text of an index is such a key, and reads back as the index as long as a word can hold it
(`index?_toString`); any other numeral of the same number does too (`index?_eq_some_iff`).

Key definitions: `Path.ofSegments`, `Path.ValidKeys`, `Path.Numeral`.
Key theorems: `Path.split_join`, `Path.split_ofSegments`, `Path.ofSegments_injective`,
`Path.validKeys_of_split`, `Path.ofSegments_of_split`, `Path.parentAndKey?_join`,
`Path.index?_toString`, `Path.index?_eq_some_iff`, `Path.segments_exact`.
-/
namespace ReactiveTree.Path

/-- The path of some segments below a path. -/
def ofSegments (path : String) (segments : List String) : String := segments.foldl join path

@[simp] theorem ofSegments_nil (path : String) : ofSegments path [] = path := rfl

@[simp] theorem ofSegments_cons (path s : String) (segments : List String) :
    ofSegments path (s :: segments) = ofSegments (join path s) segments := rfl

theorem ofSegments_append (path : String) (xs ys : List String) :
    ofSegments path (xs ++ ys) = ofSegments (ofSegments path xs) ys := List.foldl_append

/-- All segments are keys that a path can address. -/
def ValidKeys (segments : List String) : Prop := ∀ s ∈ segments, isValidKey s = true

theorem validKeys_nil : ValidKeys [] := fun _ h => by simp at h

theorem validKeys_cons {s : String} {segments : List String} :
    ValidKeys (s :: segments) ↔ isValidKey s = true ∧ ValidKeys segments := by
  simp [ValidKeys]

theorem validKeys_append {xs ys : List String} :
    ValidKeys (xs ++ ys) ↔ ValidKeys xs ∧ ValidKeys ys := by
  simp [ValidKeys, or_imp, forall_and]

/-! ### Cutting at points -/

theorem cut_ne_nil (cs : List Char) : cut cs ≠ [] := by
  cases cs with
  | nil => simp [cut]
  | cons c cs =>
    unfold cut
    split
    · simp
    · split <;> simp

theorem cut_append_point (ys : List Char) : ∀ xs : List Char,
    cut (xs ++ '.' :: ys) = cut xs ++ cut ys
  | [] => by simp [cut]
  | c :: xs => by
    have ih := cut_append_point ys xs
    by_cases hc : c = '.'
    · simp [cut, hc, ih]
    · obtain ⟨s, rest, hs⟩ := List.exists_cons_of_ne_nil (cut_ne_nil xs)
      simp [cut, hc, ih, hs]

theorem cut_of_no_point : ∀ cs : List Char, '.' ∉ cs → cut cs = [cs]
  | [], _ => rfl
  | c :: cs, h => by
    simp only [List.mem_cons, not_or] at h
    have hc : c ≠ '.' := fun he => h.1 he.symm
    simp [cut, hc, cut_of_no_point cs h.2]

theorem isValidKey_iff {key : String} : isValidKey key = true ↔ key ≠ "" ∧ '.' ∉ key.toList := by
  simp [isValidKey]

theorem validKeys_iff {segments : List String} :
    ValidKeys segments ↔ ∀ s ∈ segments, s ≠ "" ∧ '.' ∉ s.toList :=
  forall₂_congr fun _ _ => isValidKey_iff

theorem toList_ne_nil {s : String} (h : s ≠ "") : s.toList ≠ [] := fun hs =>
  h (String.toList_inj.mp hs)

/-! ### Joining and splitting -/

theorem split_empty : split "" = .ok [] := rfl

theorem split_of_ne_empty {path : String} (h : path ≠ "") : split path =
    if ((cut path.toList).map String.ofList).any (· == "") then .error (.malformed path)
    else .ok ((cut path.toList).map String.ofList) := by
  unfold split
  rw [if_neg (toList_ne_nil h)]

theorem split_eq_ok {path : String} (h : path ≠ "") {segments : List String} :
    split path = .ok segments ↔
      (cut path.toList).map String.ofList = segments ∧ ∀ s ∈ segments, s ≠ "" := by
  rw [split_of_ne_empty h]
  constructor
  · intro hs
    split at hs
    · cases hs
    · rename_i hany
      obtain rfl := Except.ok.inj hs
      exact ⟨rfl, fun s hs he => hany (List.any_eq_true.mpr ⟨s, hs, by simpa using he⟩)⟩
  · rintro ⟨rfl, hne⟩
    rw [if_neg fun hany => ?_]
    obtain ⟨s, hs, he⟩ := List.any_eq_true.mp hany
    exact hne s hs (by simpa using he)

/-- A text that does not split is reported as it is. -/
theorem malformed_of_split {path : String} {e : PathError} (h : split path = .error e) :
    e = .malformed path := by
  unfold split at h
  split at h
  · cases h
  · dsimp only at h
    split at h
    · exact (Except.error.inj h).symm
    · cases h

/-- **What is joined to a path is its last segment.** -/
theorem split_join {path key : String} {segments : List String} (hp : split path = .ok segments)
    (hk : isValidKey key = true) : split (join path key) = .ok (segments ++ [key]) := by
  obtain ⟨hne, hpoint⟩ := isValidKey_iff.mp hk
  have hkey : (cut key.toList).map String.ofList = [key] := by
    simp [cut_of_no_point _ hpoint]
  by_cases he : path = ""
  · subst he
    obtain rfl : [] = segments := by simpa [split_empty] using hp
    rw [join, if_pos rfl, split_eq_ok hne]
    exact ⟨hkey, by simpa using hne⟩
  · obtain ⟨hcut, hall⟩ := (split_eq_ok he).mp hp
    rw [join, if_neg he, split_eq_ok (by simp)]
    refine ⟨?_, ?_⟩
    · rw [← hcut, ← hkey, ← List.map_append, ← cut_append_point]
      simp [String.toList_append]
    · intro s hs
      rcases List.mem_append.mp hs with hs | hs
      · exact hall s hs
      · exact List.mem_singleton.mp hs ▸ hne

theorem split_ofSegments_of_split {path : String} {front : List String} :
    ∀ {segments : List String}, split path = .ok front → ValidKeys segments →
      split (ofSegments path segments) = .ok (front ++ segments)
  | [], hp, _ => by simpa using hp
  | s :: segments, hp, hv => by
    obtain ⟨hs, hv⟩ := validKeys_cons.mp hv
    rw [ofSegments_cons, split_ofSegments_of_split (split_join hp hs) hv, List.append_assoc]
    rfl

/-- **A path splits into the segments that it was made of.** -/
theorem split_ofSegments {segments : List String} (h : ValidKeys segments) :
    split (ofSegments "" segments) = .ok segments :=
  split_ofSegments_of_split split_empty h

/-- Different lists of keys have different paths. -/
theorem ofSegments_injective {xs ys : List String} (hx : ValidKeys xs) (hy : ValidKeys ys)
    (h : ofSegments "" xs = ofSegments "" ys) : xs = ys := by
  have hs := split_ofSegments hx
  rw [h, split_ofSegments hy] at hs
  exact (Except.ok.inj hs).symm

/-! ### What a split gives -/

theorem not_mem_of_mem_cut : ∀ {cs s : List Char}, s ∈ cut cs → '.' ∉ s
  | [], s, h => by
    obtain rfl : s = [] := by simpa [cut] using h
    simp
  | c :: cs, s, h => by
    obtain ⟨first, rest, hcut⟩ := List.exists_cons_of_ne_nil (cut_ne_nil cs)
    have ih : ∀ s ∈ first :: rest, '.' ∉ s := fun s hs => not_mem_of_mem_cut (hcut ▸ hs)
    by_cases hc : c = '.'
    · rw [cut, if_pos hc, hcut, List.mem_cons] at h
      rcases h with rfl | h
      · simp
      · exact ih s h
    · simp only [cut, if_neg hc, hcut, List.mem_cons] at h
      rcases h with rfl | h
      · simpa [eq_comm, hc] using ih first List.mem_cons_self
      · exact ih s (List.mem_cons_of_mem _ h)

/-- **The segments of a path are keys that a path can address.** -/
theorem validKeys_of_split {path : String} {segments : List String}
    (h : split path = .ok segments) : ValidKeys segments := by
  by_cases he : path = ""
  · obtain rfl : [] = segments := by simpa [he, split_empty] using h
    exact validKeys_nil
  · obtain ⟨rfl, hne⟩ := (split_eq_ok he).mp h
    intro s hs
    obtain ⟨cs, hcs, rfl⟩ := List.mem_map.mp hs
    rw [isValidKey_iff, String.toList_ofList]
    exact ⟨hne _ hs, not_mem_of_mem_cut hcs⟩

/-- What was cut at points is glued with points. -/
theorem intercalate_cut : ∀ cs : List Char, ['.'].intercalate (cut cs) = cs
  | [] => rfl
  | c :: cs => by
    obtain ⟨s, rest, hcut⟩ := List.exists_cons_of_ne_nil (cut_ne_nil cs)
    have ih := intercalate_cut cs
    rw [hcut] at ih
    by_cases hc : c = '.'
    · rw [cut, if_pos hc, hcut, List.intercalate_cons_cons, ih, hc]
      rfl
    · simp only [cut, if_neg hc, hcut]
      cases rest with
      | nil => simpa using ih
      | cons s' rest =>
        rw [List.intercalate_cons_cons] at ih ⊢
        rw [← ih]
        rfl

theorem toList_join {path : String} (h : path ≠ "") (s : String) :
    (join path s).toList = path.toList ++ '.' :: s.toList := by
  rw [join, if_neg h, String.toList_append, String.toList_append, List.append_assoc]
  rfl

theorem toList_ofSegments : ∀ {segments : List String} {path : String}, path ≠ "" →
    (ofSegments path segments).toList =
      ['.'].intercalate (path.toList :: segments.map String.toList)
  | [], path, _ => by simp
  | s :: segments, path, h => by
    have hj : join path s ≠ "" := by simp [join, h]
    rw [ofSegments_cons, toList_ofSegments hj, toList_join h, List.map_cons]
    cases segments with
    | nil => simp
    | cons s' segments => simp [List.intercalate_cons_cons]

/-- **A path is made of the segments that it splits into.** -/
theorem ofSegments_of_split {path : String} {segments : List String}
    (h : split path = .ok segments) : ofSegments "" segments = path := by
  by_cases he : path = ""
  · obtain rfl : [] = segments := by simpa [he, split_empty] using h
    exact he.symm
  · obtain ⟨hcut, hne⟩ := (split_eq_ok he).mp h
    obtain ⟨s, rest, hs⟩ := List.exists_cons_of_ne_nil (cut_ne_nil path.toList)
    rw [hs, List.map_cons] at hcut
    subst hcut
    have hfirst : join "" (String.ofList s) = String.ofList s := rfl
    rw [ofSegments_cons, hfirst, ← String.toList_inj, toList_ofSegments (hne _ List.mem_cons_self),
      List.map_map]
    have hid : String.toList ∘ String.ofList = id := funext fun cs => String.toList_ofList
    rw [hid, List.map_id, String.toList_ofList, ← hs, intercalate_cut]

/-- A list is split where a test fails first. -/
theorem span_append {p : Char → Bool} {xs : List Char} (ys : List Char)
    (hx : ∀ c ∈ xs, p c = true) (hy : ∀ c ∈ ys.head?, p c = false) :
    (xs ++ ys).span p = (xs, ys) := by
  rw [List.span_eq_takeWhile_dropWhile, List.takeWhile_append_of_pos hx,
    List.dropWhile_append_of_pos hx]
  cases ys with
  | nil => simp
  | cons c ys =>
    have hc : p c = false := hy c rfl
    simp [hc]

/-- What was joined last is split off. -/
theorem parentAndKey?_join {key : String} (path : String) (hk : isValidKey key = true) :
    parentAndKey? (join path key) = some (path, key) := by
  obtain ⟨hne, hpoint⟩ := isValidKey_iff.mp hk
  have hall : ∀ c ∈ key.toList.reverse, (c != '.') = true := fun c hc => by
    have : c ≠ '.' := fun he => hpoint (he ▸ List.mem_reverse.mp hc)
    simpa using this
  by_cases he : path = ""
  · have hspan := span_append [] hall (by simp)
    rw [List.append_nil] at hspan
    rw [parentAndKey?, show join path key = key from if_pos he, if_neg (toList_ne_nil hne), hspan,
      he]
  · have hchars : (join path key).toList = path.toList ++ '.' :: key.toList := toList_join he key
    have hspan := span_append ('.' :: path.toList.reverse) hall (by simp)
    rw [parentAndKey?, hchars, if_neg (by simp), List.reverse_append, List.reverse_cons,
      List.append_assoc, List.singleton_append, hspan]
    simp

/-! ### Indices -/

theorem isDigit_of_mem_toDigits {i : Nat} {c : Char} (h : c ∈ Nat.toDigits 10 i) :
    isDigit c = true := by
  have hd := Nat.isDigit_of_mem_toDigits (by decide) (by decide) h
  simpa [isDigit, Char.isDigit, Char.le_def] using hd

/-- **The decimal text of an index reads as the index.** -/
theorem index?_toString {i : Nat} (h : i < Word64.count) : index? (toString i) = some i := by
  have hl : (toString i).toList = Nat.toDigits 10 i := by
    simp
  have hall : (Nat.toDigits 10 i).all isDigit = true :=
    List.all_eq_true.mpr fun c hc => isDigit_of_mem_toDigits hc
  have hval : (Nat.toDigits 10 i).foldl (fun acc c => 10 * acc + (c.toNat - 48)) 0 = i :=
    Nat.ofDigitChars_ten_toDigits
  unfold index?
  simp only [hl, hall, hval]
  simp [h, Nat.toDigits_ne_nil]

theorem isValidKey_toString (i : Nat) : isValidKey (toString i) = true := by
  have hl : (toString i).toList = Nat.toDigits 10 i := by
    simp
  rw [isValidKey_iff, hl]
  refine ⟨fun h => ?_, fun h => ?_⟩
  · have : (toString i).toList = [] := by rw [h]; rfl
    exact Nat.toDigits_ne_nil (hl ▸ this)
  · exact absurd (isDigit_of_mem_toDigits h) (by decide)

theorem toString_injective {i j : Nat} (h : toString i = toString j) : i = j := by
  have hd : Nat.toDigits 10 i = Nat.toDigits 10 j := by
    simpa using congrArg String.toList h
  rw [← Nat.ofDigitChars_ten_toDigits (n := i), hd, Nat.ofDigitChars_ten_toDigits]

/-- A segment of decimal digits, and the number that they write. -/
def Numeral (segment : String) (i : Nat) : Prop :=
  segment ≠ "" ∧ (∀ c ∈ segment.toList, c.isDigit = true) ∧
    Nat.ofDigitChars 10 segment.toList 0 = i

theorem isDigit_eq (c : Char) : isDigit c = c.isDigit := by
  simp [isDigit, Char.isDigit, Char.le_def]

/-- **An index is a numeral that a word can hold.** -/
theorem index?_eq_some_iff {s : String} {i : Nat} :
    index? s = some i ↔ Numeral s i ∧ i < Word64.count := by
  have hdigits : s.toList ≠ [] ∧ s.toList.all isDigit = true ↔
      s ≠ "" ∧ ∀ c ∈ s.toList, c.isDigit = true := by
    simp [isDigit_eq]
  have hindex : index? s = if s.toList ≠ [] ∧ s.toList.all isDigit = true then
      if Nat.ofDigitChars 10 s.toList 0 < Word64.count then some (Nat.ofDigitChars 10 s.toList 0)
      else none
    else none := rfl
  unfold Numeral
  rw [hindex, ← and_assoc, ← hdigits]
  by_cases hd : s.toList ≠ [] ∧ s.toList.all isDigit = true
  · rw [if_pos hd, Option.ite_none_right_eq_some, Option.some_inj]
    constructor
    · rintro ⟨hlt, rfl⟩
      exact ⟨⟨hd, rfl⟩, hlt⟩
    · rintro ⟨⟨-, rfl⟩, hlt⟩
      exact ⟨hlt, rfl⟩
  · rw [if_neg hd]
    exact iff_of_false (by simp) fun h => hd h.1.1

/-- A numeral is a key that a path can address. -/
theorem isValidKey_of_index? {s : String} {i : Nat} (h : index? s = some i) :
    isValidKey s = true := by
  obtain ⟨⟨hne, hdigits, -⟩, -⟩ := index?_eq_some_iff.mp h
  exact isValidKey_iff.mpr ⟨hne, fun hpoint => absurd (hdigits _ hpoint) (by decide)⟩

/-! ### Texts and segments -/

/-- **A path is its segments, written as one text.** Keys without points that are not empty are joined
to a path that splits into them. A text splits if and only if it is such a path, and it is joined from
what it splits into; any other text is malformed. A valid key that is joined to a path is its last
segment, and is split off again. The decimal text of a word reads as the word, and what reads as an
index is a numeral, with leading zeros or without, of a number that a word can hold. -/
theorem segments_exact :
    (∀ segments, (∀ s ∈ segments, s ≠ "" ∧ '.' ∉ s.toList) →
      split (ofSegments "" segments) = .ok segments) ∧
    (∀ path, (∃ segments, split path = .ok segments) ↔
      ∃ segments, (∀ s ∈ segments, s ≠ "" ∧ '.' ∉ s.toList) ∧ ofSegments "" segments = path) ∧
    (∀ path segments, split path = .ok segments → ofSegments "" segments = path) ∧
    (∀ path e, split path = .error e → e = .malformed path) ∧
    (∀ path segments key, split path = .ok segments → isValidKey key = true →
      parentAndKey? (join path key) = some (path, key) ∧
      split (join path key) = .ok (segments ++ [key])) ∧
    (∀ i < Word64.count, index? (toString i) = some i) ∧
    ∀ s i, index? s = some i ↔ Numeral s i ∧ i < Word64.count := by
  refine ⟨fun segments h => ?_, fun path => ⟨?_, ?_⟩, fun path segments => ofSegments_of_split,
    fun path e => malformed_of_split, fun path segments key hp hk => ?_, fun i => index?_toString,
    fun s i => index?_eq_some_iff⟩
  · exact split_ofSegments (validKeys_iff.mpr h)
  · rintro ⟨segments, h⟩
    exact ⟨segments, validKeys_iff.mp (validKeys_of_split h), ofSegments_of_split h⟩
  · rintro ⟨segments, h, rfl⟩
    exact ⟨segments, split_ofSegments (validKeys_iff.mpr h)⟩
  · exact ⟨parentAndKey?_join path hk, split_join hp hk⟩

/-- A path with an index among its segments, and the numerals on both sides of the greatest word. -/
theorem segments_exact_rooms :
    split (ofSegments "" ["rooms", "007", "größe"]) = .ok ["rooms", "007", "größe"] ∧
    ofSegments "" ["rooms", "007", "größe"] = "rooms.007.größe" ∧
    (∀ segments, split "rooms..größe" ≠ .ok segments) ∧
    parentAndKey? (join "rooms.007" "größe") = some ("rooms.007", "größe") ∧
    index? (toString 18446744073709551615) = some 18446744073709551615 ∧
    index? "007" = some 7 ∧ index? "18446744073709551616" = none := by
  obtain ⟨hsplit, -, hjoin, -, hparent, hindex, hnumeral⟩ := segments_exact
  have hkeys : ∀ s ∈ ["rooms", "007", "größe"], s ≠ "" ∧ '.' ∉ s.toList := by decide
  have hdigits : ∀ c ∈ "007".toList, c.isDigit = true := List.all_eq_true.mp (by decide)
  refine ⟨hsplit _ hkeys, hjoin _ _ rfl, fun segments h => ?_, ?_, hindex _ (by decide),
    (hnumeral _ _).mpr ⟨⟨by decide, hdigits, rfl⟩, by decide⟩, ?_⟩
  · cases h
  · exact (hparent "rooms.007" ["rooms", "007"] "größe" rfl rfl).1
  · rw [Option.eq_none_iff_forall_ne_some]
    rintro i h
    obtain ⟨⟨-, -, hi⟩, hlt⟩ := (hnumeral _ _).mp h
    exact absurd (hi ▸ hlt) (by decide)

end ReactiveTree.Path
