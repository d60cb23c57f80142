import ReactiveTree.Snippet.Template
import ReactiveTree.Proofs.Members
import Mathlib.Data.List.Chain
import Mathlib.Data.List.Infix
import Mathlib.Data.List.TakeWhile

/-!
# What filling in parameters gives

A body is text with holes, the placeholders (`Template.parts`). To fill it is to put the value of its
parameter into every hole at once (`Template.filled`), whatever stands in the values and in whatever
order the parameters come. Rendering replaces one placeholder after another in the text as it is by
then, so it fills the body as long as every parameter finds its placeholder in the holes of the body
only (`Template.FindsHolesOnly`), and not in values that were put in before. Otherwise a value gives
way to other values: in a body of the catalogue, where marks stand behind the holes, each hole gets
its value with the later parameters filled in (`Template.settled`).

Key definitions: `Template.Part`, `Template.parts`, `Template.filled`, `Template.occurrences`,
`Template.FindsHolesOnly`, `Template.settled`.
Key theorems: `Template.replaceFrom_expand`, `Template.filled_of_perm`, `Template.count_hole`,
`Template.fillInAll_expand`, `Template.settled_of_absent`, `Template.render_exact`.
-/
namespace ReactiveTree.Template

variable {p v x y : List Char} {b : Char} {name m : String} {t : Template}
variable {params front rest : List (String × String)}

/-! ### Bodies with holes -/

/-- A piece of a body: a character, or a hole for the value of a parameter. -/
inductive Part where
  | char (c : Char)
  | hole (name : String)
deriving Repr, DecidableEq

/-- A character that is no brace. -/
def isPlain (c : Char) : Bool := c != '\x7b' && c != '\x7d'

/-- The name of the placeholder at the start of a text; there are no braces in it. -/
def holeAt? (cs : List Char) : Option String :=
  let name := String.ofList ((cs.drop 2).takeWhile isPlain)
  if (placeholder name).isPrefixOf cs then some name else none

/-- The parts of a text; `skip` characters belong to the hole before. -/
def partsFrom : Nat → List Char → List Part
  | _, [] => []
  | skip + 1, _ :: cs => partsFrom skip cs
  | 0, c :: cs =>
    match holeAt? (c :: cs) with
    | some name => .hole name :: partsFrom ((placeholder name).length - 1) cs
    | none => .char c :: partsFrom 0 cs

/-- The parts of the body. -/
def parts (t : Template) : List Part := partsFrom 0 t.body.toList

/-- The text of parts whose holes have some content. -/
def expand (content : String → List Char) (ps : List Part) : List Char :=
  ps.flatMap fun
    | .char c => [c]
    | .hole name => content name

/-- What stands in a hole: the value of the parameter, or the placeholder if there is none. -/
def valueOf (params : List (String × String)) (name : String) : List Char :=
  ((Json.lookup name params).map String.toList).getD (placeholder name)

/-- **The body with the value of each parameter in its holes.** -/
def filled (t : Template) (params : List (String × String)) : String :=
  String.ofList (expand (valueOf params) t.parts)

@[simp] theorem expand_nil (f : String → List Char) : expand f [] = [] := rfl

@[simp] theorem expand_char (f : String → List Char) (c : Char) (ps : List Part) :
    expand f (.char c :: ps) = c :: expand f ps := rfl

@[simp] theorem expand_hole (f : String → List Char) (name : String) (ps : List Part) :
    expand f (.hole name :: ps) = f name ++ expand f ps := rfl

theorem placeholder_eq (name : String) :
    placeholder name = '\x7b' :: '\x7b' :: (name.toList ++ ['\x7d', '\x7d']) := rfl

theorem placeholder_ne_nil (name : String) : placeholder name ≠ [] := by
  rw [placeholder_eq]
  exact List.cons_ne_nil _ _

/-- There are no braces in the name of a placeholder. -/
def NoBraces (name : String) : Prop := ∀ c ∈ name.toList, isPlain c = true

/-- The name of a placeholder goes on as far as there is no brace. -/
theorem takeWhile_placeholder (h : NoBraces name) (y : List Char) :
    ((placeholder name ++ y).drop 2).takeWhile isPlain = name.toList := by
  rw [placeholder_eq, List.cons_append, List.cons_append, List.drop_succ_cons, List.drop_succ_cons,
    List.drop_zero, List.append_assoc, List.takeWhile_append_of_pos h, List.cons_append,
    List.takeWhile_cons_of_neg (by decide), List.append_nil]

/-- **A hole is found where a placeholder stands.** -/
theorem holeAt?_eq_some : holeAt? x = some name ↔ NoBraces name ∧ placeholder name <+: x := by
  unfold holeAt?
  rw [Option.ite_none_right_eq_some, Option.some_inj, List.isPrefixOf_iff_prefix]
  constructor
  · rintro ⟨hp, rfl⟩
    refine ⟨fun c hc => ?_, hp⟩
    rw [String.toList_ofList] at hc
    exact List.mem_takeWhile_imp hc
  · rintro ⟨hn, y, rfl⟩
    rw [takeWhile_placeholder hn, String.ofList_toList]
    exact ⟨List.prefix_append _ _, rfl⟩

/-- With nothing filled in, the parts are the text. -/
theorem expand_partsFrom : ∀ (skip : Nat) (cs : List Char),
    expand placeholder (partsFrom skip cs) = cs.drop skip
  | _, [] => by simp [partsFrom]
  | skip + 1, _ :: cs => by
    rw [partsFrom, expand_partsFrom skip cs, List.drop_succ_cons]
  | 0, c :: cs => by
    rw [partsFrom]
    cases hh : holeAt? (c :: cs) with
    | none => simp only [expand_char, expand_partsFrom 0 cs, List.drop_zero]
    | some name =>
      obtain ⟨-, y, hy⟩ := holeAt?_eq_some.mp hh
      have hdrop : cs.drop ((placeholder name).length - 1) = y := by
        have hlength : (placeholder name ++ y).drop (placeholder name).length = y := List.drop_left
        rw [hy, placeholder_eq, List.length_cons, List.drop_succ_cons] at hlength
        rw [placeholder_eq, List.length_cons, Nat.add_sub_cancel, hlength]
      simp only [expand_hole, expand_partsFrom, hdrop, hy, List.drop_zero]

theorem expand_parts (t : Template) : expand placeholder t.parts = t.body.toList :=
  expand_partsFrom 0 _

/-- There are no braces in the names of holes. -/
theorem noBraces_of_mem : ∀ {skip : Nat} {cs : List Char},
    .hole name ∈ partsFrom skip cs → NoBraces name
  | _, [], h => by simp [partsFrom] at h
  | skip + 1, _ :: cs, h => by
    rw [partsFrom] at h
    exact noBraces_of_mem h
  | 0, c :: cs, h => by
    rw [partsFrom] at h
    cases hh : holeAt? (c :: cs) with
    | none =>
      simp only [hh, List.mem_cons, reduceCtorEq, false_or] at h
      exact noBraces_of_mem h
    | some m =>
      simp only [hh, List.mem_cons, Part.hole.injEq] at h
      rcases h with rfl | h
      · exact (holeAt?_eq_some.mp hh).1
      · exact noBraces_of_mem h

/-! ### Where a placeholder stands -/

/-- A text stands at its own start. -/
theorem isPrefixOf_append_self (p y : List Char) : p.isPrefixOf (p ++ y) = true :=
  List.isPrefixOf_iff_prefix.mpr (List.prefix_append p y)

/-- How often a text stands in another, overlapping or not. -/
def occurrences (p : List Char) : List Char → Nat
  | [] => 0
  | c :: cs => (if p.isPrefixOf (c :: cs) then 1 else 0) + occurrences p cs

theorem occurrences_le_append (p y : List Char) : ∀ x : List Char,
    occurrences p y ≤ occurrences p (x ++ y)
  | [] => Nat.le_refl _
  | _ :: x => (occurrences_le_append p y x).trans (Nat.le_add_left _ _)

/-- A text in front of another is one more occurrence of it. -/
theorem occurrences_lt_append_self (hp : p ≠ []) (y : List Char) :
    occurrences p y < occurrences p (p ++ y) := by
  obtain ⟨c, q, rfl⟩ := List.exists_cons_of_ne_nil hp
  have hle := occurrences_le_append (c :: q) y q
  have hself := isPrefixOf_append_self (c :: q) y
  rw [List.cons_append] at hself ⊢
  rw [occurrences, if_pos hself]
  omega

/-- A placeholder does not begin in characters that are no opening braces. -/
theorem occurrences_append_of_closed (name : String) (y : List Char) : ∀ {x : List Char},
    '\x7b' ∉ x → occurrences (placeholder name) (x ++ y) = occurrences (placeholder name) y
  | [], _ => rfl
  | c :: x, h => by
    obtain ⟨hc, hx⟩ := not_or.mp fun hm => h (List.mem_cons.mpr hm)
    have hfirst : (placeholder name).isPrefixOf (c :: (x ++ y)) = false := by
      simp [placeholder_eq, List.isPrefixOf, hc]
    rw [List.cons_append, occurrences, hfirst, occurrences_append_of_closed name y hx]
    simp

theorem NoBraces.not_mem (h : NoBraces name) : '\x7b' ∉ name.toList :=
  fun hm => absurd (h _ hm) (by decide)

/-- Only at its start can a placeholder begin where another one stands. -/
theorem occurrences_placeholder_append (name : String) (hm : NoBraces m) (y : List Char) :
    occurrences (placeholder name) (placeholder m ++ y) =
      (if (placeholder name).isPrefixOf (placeholder m ++ y) then 1 else 0) +
        occurrences (placeholder name) y := by
  have hclosed : '\x7b' ∉ m.toList ++ ['\x7d', '\x7d'] := by simp [hm.not_mem]
  -- Behind the first brace stands another one, and then none.
  have hsecond : (placeholder name).isPrefixOf
      ('\x7b' :: (m.toList ++ ['\x7d', '\x7d'] ++ y)) = false := by
    cases hl : m.toList with
    | nil => simp [placeholder_eq, List.isPrefixOf]
    | cons c cs =>
      have hc : '\x7b' ≠ c := by
        rintro rfl
        exact hm.not_mem (hl ▸ List.mem_cons_self)
      simp [placeholder_eq, List.isPrefixOf, hc]
  have hcons : placeholder m ++ y = '\x7b' :: '\x7b' :: (m.toList ++ ['\x7d', '\x7d'] ++ y) := rfl
  rw [hcons, occurrences, occurrences, hsecond, occurrences_append_of_closed name y hclosed]
  simp

/-- Of the placeholders without braces in their names, only itself begins where one stands. -/
theorem occurrences_placeholder (hn : NoBraces name) (hm : NoBraces m) (y : List Char) :
    occurrences (placeholder name) (placeholder m ++ y) =
      (if m = name then 1 else 0) + occurrences (placeholder name) y := by
  have hfirst : (placeholder name).isPrefixOf (placeholder m ++ y) = true ↔ m = name := by
    rw [List.isPrefixOf_iff_prefix]
    constructor
    · intro hp
      have hname := holeAt?_eq_some.mpr ⟨hn, hp⟩
      rw [holeAt?_eq_some.mpr ⟨hm, List.prefix_append _ _⟩] at hname
      exact Option.some.inj hname
    · rintro rfl
      exact List.prefix_append _ _
  rw [occurrences_placeholder_append name hm y]
  simp only [hfirst]

/-- A text has a hole wherever a placeholder stands. -/
theorem count_partsFrom (hn : NoBraces name) : ∀ (skip : Nat) (cs : List Char),
    (partsFrom skip cs).count (.hole name) = occurrences (placeholder name) (cs.drop skip)
  | _, [] => by simp [partsFrom, occurrences]
  | skip + 1, _ :: cs => by
    rw [partsFrom, count_partsFrom hn skip cs, List.drop_succ_cons]
  | 0, c :: cs => by
    have hparts := expand_partsFrom 0 (c :: cs)
    rw [partsFrom] at hparts ⊢
    cases hh : holeAt? (c :: cs) with
    | none =>
      have hfirst : (placeholder name).isPrefixOf (c :: cs) = false := by
        rw [Bool.eq_false_iff, ne_eq, List.isPrefixOf_iff_prefix]
        intro hp
        rw [holeAt?_eq_some.mpr ⟨hn, hp⟩] at hh
        cases hh
      simp only [List.drop_zero, occurrences, hfirst]
      rw [List.count_cons_of_ne (by simp), count_partsFrom hn 0 cs]
      simp
    | some m =>
      simp only [hh, expand_hole, expand_partsFrom] at hparts ⊢
      rw [← hparts, occurrences_placeholder hn (holeAt?_eq_some.mp hh).1, List.count_cons,
        count_partsFrom hn, Nat.add_comm]
      simp

/-- **The body has a hole wherever it has a placeholder.** -/
theorem count_hole (hn : NoBraces name) (t : Template) :
    t.parts.count (.hole name) = occurrences (placeholder name) t.body.toList :=
  count_partsFrom hn 0 _

/-! ### Filling in one parameter after another -/

/-- A text with one parameter filled in. -/
def fillIn (text : List Char) (q : String × String) : List Char :=
  replaceFrom (placeholder q.1) q.2.toList 0 text

/-- A text with parameters filled in one after another. -/
def fillInAll (params : List (String × String)) (text : List Char) : List Char :=
  params.foldl fillIn text

theorem render_eq (t : Template) (params : List (String × String)) :
    t.render params = String.ofList (fillInAll params t.body.toList) := rfl

theorem replaceFrom_skip (p v y : List Char) : ∀ x : List Char,
    replaceFrom p v x.length (x ++ y) = replaceFrom p v 0 y
  | [] => rfl
  | _ :: x => replaceFrom_skip p v y x

theorem replaceFrom_append_self (hp : p ≠ []) (v y : List Char) :
    replaceFrom p v 0 (p ++ y) = v ++ replaceFrom p v 0 y := by
  obtain ⟨c, q, rfl⟩ := List.exists_cons_of_ne_nil hp
  have hself := isPrefixOf_append_self (c :: q) y
  rw [List.cons_append] at hself ⊢
  rw [replaceFrom, if_pos hself, List.length_cons, Nat.add_sub_cancel, replaceFrom_skip]

/-- What has no occurrence in it stays. -/
theorem replaceFrom_append_of_eq (v : List Char) : ∀ {x : List Char},
    occurrences p (x ++ y) = occurrences p y → replaceFrom p v 0 (x ++ y) = x ++ replaceFrom p v 0 y
  | [], _ => rfl
  | c :: x, h => by
    have hle := occurrences_le_append p y x
    rw [List.cons_append, occurrences] at h
    have hfirst : ¬ p.isPrefixOf (c :: (x ++ y)) = true := fun hp => by
      rw [if_pos hp] at h
      omega
    rw [if_neg hfirst] at h
    rw [List.cons_append, replaceFrom, if_neg hfirst, replaceFrom_append_of_eq v (by omega),
      List.cons_append]

section
variable {f g : String → List Char}

/-- A placeholder stands at least in its holes. -/
theorem count_le_occurrences (hf : f name = placeholder name) : ∀ ps : List Part,
    ps.count (.hole name) ≤ occurrences (placeholder name) (expand f ps)
  | [] => Nat.le_refl _
  | .char c :: ps => by
    rw [List.count_cons_of_ne (by simp), expand_char, occurrences]
    exact (count_le_occurrences hf ps).trans (Nat.le_add_left _ _)
  | .hole m :: ps => by
    have ih := count_le_occurrences hf ps
    rw [expand_hole]
    by_cases hm : m = name
    · subst hm
      have hlt := occurrences_lt_append_self (placeholder_ne_nil m) (expand f ps)
      rw [List.count_cons_self, hf]
      omega
    · rw [List.count_cons_of_ne (by simpa using hm)]
      exact ih.trans (occurrences_le_append _ _ _)

/-- **A placeholder that stands in its holes only gives way to the value there and nowhere else.** -/
theorem replaceFrom_expand (hf : f name = placeholder name) (hg : g name = v)
    (hfg : ∀ m, m ≠ name → g m = f m) : ∀ {ps : List Part},
    occurrences (placeholder name) (expand f ps) = ps.count (.hole name) →
      replaceFrom (placeholder name) v 0 (expand f ps) = expand g ps
  | [], _ => rfl
  | .char c :: ps, h => by
    have hle := count_le_occurrences hf ps
    have hrest := occurrences_le_append (placeholder name) (expand f ps) [c]
    rw [List.count_cons_of_ne (by simp), expand_char] at h
    rw [List.singleton_append] at hrest
    have hstay : replaceFrom (placeholder name) v 0 ([c] ++ expand f ps) =
        [c] ++ replaceFrom (placeholder name) v 0 (expand f ps) :=
      replaceFrom_append_of_eq v (by rw [List.singleton_append]; omega)
    rw [expand_char, expand_char, ← List.singleton_append, hstay,
      replaceFrom_expand hf hg hfg (by omega), List.singleton_append]
  | .hole m :: ps, h => by
    have hle := count_le_occurrences hf ps
    rw [expand_hole] at h
    rw [expand_hole, expand_hole]
    by_cases hm : m = name
    · have hlt := occurrences_lt_append_self (placeholder_ne_nil name) (expand f ps)
      rw [hm, List.count_cons_self, hf] at h
      rw [hm, hf, hg, replaceFrom_append_self (placeholder_ne_nil name),
        replaceFrom_expand hf hg hfg (by omega)]
    · have hrest := occurrences_le_append (placeholder name) (expand f ps) (f m)
      rw [List.count_cons_of_ne (by simpa using hm)] at h
      rw [replaceFrom_append_of_eq v (by omega), replaceFrom_expand hf hg hfg (by omega), hfg m hm]

end

/-- Every parameter finds its placeholder in the holes only, once those in front are filled in. -/
def FindsHolesOnly (ps : List Part) (front : List (String × String)) :
    List (String × String) → Prop
  | [] => True
  | q :: rest =>
    occurrences (placeholder q.1) (expand (valueOf front) ps) = ps.count (.hole q.1) ∧
      FindsHolesOnly ps (front ++ [q]) rest

instance FindsHolesOnly.decide (ps : List Part) : ∀ front params : List (String × String),
    Decidable (FindsHolesOnly ps front params)
  | _, [] => .isTrue trivial
  | front, q :: rest =>
    have := FindsHolesOnly.decide ps (front ++ [q]) rest
    inferInstanceAs (Decidable (_ ∧ _))

theorem valueOf_of_not_mem (h : name ∉ front.map (·.1)) : valueOf front name = placeholder name := by
  rw [valueOf, Json.lookup_eq_none h]
  rfl

/-- **Parameters that find holes only fill them with their values.** -/
theorem fillInAll_of_findsHolesOnly {ps : List Part} : ∀ (rest front : List (String × String)),
    ((front ++ rest).map (·.1)).Nodup → FindsHolesOnly ps front rest →
      fillInAll rest (expand (valueOf front) ps) = expand (valueOf (front ++ rest)) ps
  | [], front, _, _ => by rw [List.append_nil]; rfl
  | (name, value) :: rest, front, hd, h => by
    have hnew : name ∉ front.map (·.1) := by
      rw [List.map_append, List.nodup_append] at hd
      exact fun hm => hd.2.2 name hm name (by simp) rfl
    have hone : fillIn (expand (valueOf front) ps) (name, value) =
        expand (valueOf (front ++ [(name, value)])) ps := by
      refine replaceFrom_expand (valueOf_of_not_mem hnew) ?_ (fun m hm => ?_) h.1
      · rw [valueOf, Json.lookup_append, Json.lookup_eq_none hnew, Option.none_or, Json.lookup_cons,
          if_pos rfl]
        rfl
      · rw [valueOf, valueOf, Json.lookup_append, Json.lookup_cons, if_neg (Ne.symm hm)]
        simp [Json.lookup]
    rw [List.append_cons] at hd ⊢
    rw [fillInAll, List.foldl_cons, hone]
    exact fillInAll_of_findsHolesOnly rest _ hd h.2

/-- The body is filled with the values as they are if its placeholders are found in its holes only. -/
theorem render_of_findsHolesOnly (hd : (params.map (·.1)).Nodup)
    (h : FindsHolesOnly t.parts [] params) : t.render params = t.filled params := by
  have hbody : expand (valueOf []) t.parts = t.body.toList := expand_parts t
  rw [render_eq, ← hbody, fillInAll_of_findsHolesOnly params [] hd h]
  rfl

/-- **In what order the parameters come makes no difference to what is filled in.** -/
theorem filled_of_perm {params' : List (String × String)} (hd : (params.map (·.1)).Nodup)
    (h : params'.Perm params) (t : Template) : t.filled params' = t.filled params := by
  have hd' : (params'.map (·.1)).Nodup := (h.map _).nodup_iff.mpr hd
  have hlookup (name : String) : Json.lookup name params' = Json.lookup name params :=
    Option.ext fun value =>
      ⟨fun hl => Json.lookup_of_mem hd (h.mem_iff.mp (Json.mem_of_lookup hl)),
        fun hl => Json.lookup_of_mem hd' (h.mem_iff.mpr (Json.mem_of_lookup hl))⟩
  have hvalue : valueOf params' = valueOf params := funext fun name => by
    rw [valueOf, valueOf, hlookup]
  rw [filled, filled, hvalue]

/-! ### Holes with marks behind them -/

/-- The characters that stand behind the placeholders of the catalogue. -/
def isMark (c : Char) : Bool := ['\'', ')', ',', ':', ' '].contains c

/-- Without a mark in its name, a placeholder does not go on behind a hole. -/
def IsName (name : String) : Prop := ∀ c ∈ name.toList, isPlain c = true ∧ isMark c = false

instance (name : String) : Decidable (IsName name) := List.decidableBAll _ _

theorem IsName.noBraces (h : IsName name) : NoBraces name := fun c hc => (h c hc).1

/-- What can stand behind a part, if holes are to be kept apart: a mark behind a hole, and no two
opening braces one behind the other but those of placeholders. -/
def Part.precedes : Part → Part → Bool
  | .char c, .char d => c != '\x7b' || d != '\x7b'
  | .char c, .hole _ => c != '\x7b'
  | .hole _, .char c => isMark c
  | .hole _, .hole _ => false

/-- The holes of a body are kept apart. -/
def KeptApart (ps : List Part) : Prop := ps.IsChain fun a b => a.precedes b = true

instance (ps : List Part) : Decidable (KeptApart ps) :=
  inferInstanceAs (Decidable (List.IsChain _ ps))

theorem keptApart_catalogue (p : Purpose) : ∀ t ∈ catalogue p, KeptApart t.parts := by
  cases p <;> decide +kernel

theorem not_mem_placeholder (hb : isMark b = true) (hn : IsName name) : b ∉ placeholder name := by
  have hbraces : b ≠ '\x7b' ∧ b ≠ '\x7d' := by
    constructor <;> rintro rfl <;> exact absurd hb (by decide)
  have hname : b ∉ name.toList := fun hm => by
    rw [(hn b hm).2] at hb
    cases hb
  simp [placeholder_eq, hbraces, hname]

/-- A text does not reach over a character that is not in it. -/
theorem isPrefixOf_append_cons (hb : b ∉ p) (x y : List Char) :
    p.isPrefixOf (x ++ b :: y) = p.isPrefixOf x := by
  rw [Bool.eq_iff_iff, List.isPrefixOf_iff_prefix, List.isPrefixOf_iff_prefix]
  refine ⟨fun h => ?_, fun h => h.trans (List.prefix_append _ _)⟩
  have hover : x ++ [b] <+: x ++ b :: y := ⟨y, by rw [List.append_assoc, List.singleton_append]⟩
  rcases List.prefix_or_prefix_of_prefix h hover with h | h
  · rcases List.prefix_concat_iff.mp h with rfl | h
    · exact absurd (List.mem_append_right x List.mem_cons_self) hb
    · exact h
  · exact absurd (h.subset (List.mem_append_right x List.mem_cons_self)) hb

/-- **Nothing is replaced across such a character.** -/
theorem replaceFrom_append_cons (hb : b ∉ p) (v y : List Char) : ∀ (x : List Char) (skip : Nat),
    skip ≤ x.length → replaceFrom p v skip (x ++ b :: y) =
      replaceFrom p v skip x ++ replaceFrom p v 0 (b :: y)
  | [], skip, h => by
    obtain rfl : skip = 0 := Nat.le_zero.mp h
    rfl
  | _ :: x, skip + 1, h => replaceFrom_append_cons hb v y x skip (Nat.le_of_succ_le_succ h)
  | c :: x, 0, _ => by
    have hfirst := isPrefixOf_append_cons hb (c :: x) y
    rw [List.cons_append] at hfirst ⊢
    rw [replaceFrom, replaceFrom, hfirst]
    split
    · rename_i hp
      have hlength := (List.isPrefixOf_iff_prefix.mp hp).length_le
      rw [List.length_cons] at hlength
      rw [replaceFrom_append_cons hb v y x _ (by omega), List.append_assoc]
    · rw [replaceFrom_append_cons hb v y x 0 (Nat.zero_le _), List.cons_append]

/-- No placeholder begins with a character of the body outside the holes. -/
theorem isPrefixOf_expand {c : Char} {ps : List Part} (h : KeptApart (.char c :: ps))
    (name : String) (f : String → List Char) :
    (placeholder name).isPrefixOf (c :: expand f ps) = false := by
  cases ps with
  | nil => simp [placeholder_eq, List.isPrefixOf]
  | cons part ps =>
    have hnext := (List.isChain_cons_cons.mp h).1
    cases part with
    | char d =>
      simp only [Part.precedes, Bool.or_eq_true, bne_iff_ne, ne_eq] at hnext
      simp only [placeholder_eq, expand_char, List.isPrefixOf]
      grind
    | hole m =>
      simp only [Part.precedes, bne_iff_ne, ne_eq] at hnext
      simp [placeholder_eq, List.isPrefixOf, Ne.symm hnext]

/-- **A parameter is filled in hole by hole**, whatever stands in the holes. -/
theorem fillIn_expand {q : String × String} (hn : IsName q.1) (f : String → List Char) :
    ∀ {ps : List Part}, KeptApart ps →
      fillIn (expand f ps) q = expand (fun m => fillIn (f m) q) ps
  | [], _ => rfl
  | .char c :: ps, h => by
    have ih : fillIn (expand f ps) q = _ := fillIn_expand hn f h.tail
    rw [expand_char, expand_char, ← ih, fillIn, replaceFrom, isPrefixOf_expand h, fillIn]
    rfl
  | [.hole m], _ => by simp
  | .hole m :: .char b :: ps, h => by
    obtain ⟨hb, htail⟩ := List.isChain_cons_cons.mp h
    have ih : fillIn (expand f (.char b :: ps)) q = _ := fillIn_expand hn f htail
    rw [expand_hole, expand_hole, ← ih, expand_char, fillIn,
      replaceFrom_append_cons (not_mem_placeholder hb hn) _ _ _ 0 (Nat.zero_le _)]
    rfl
  | .hole _ :: .hole _ :: _, h => by cases (List.isChain_cons_cons.mp h).1

theorem fillInAll_expand {ps : List Part} (h : KeptApart ps) :
    ∀ {params : List (String × String)} (f : String → List Char), (∀ q ∈ params, IsName q.1) →
      fillInAll params (expand f ps) = expand (fun m => fillInAll params (f m)) ps
  | [], _, _ => rfl
  | q :: params, f, hn => by
    rw [fillInAll, List.foldl_cons, fillIn_expand (hn q List.mem_cons_self) f h]
    exact fillInAll_expand h _ fun r hr => hn r (List.mem_cons_of_mem _ hr)

/-! ### What becomes of a value -/

/-- The parameters, with the later ones filled in in the values of the earlier ones. -/
def settled : List (String × String) → List (String × String)
  | [] => []
  | (name, value) :: rest => (name, String.ofList (fillInAll rest value.toList)) :: settled rest

/-- A text in which a placeholder does not occur stays when it is filled in. -/
theorem fillIn_of_absent {q : String × String} (h : occurrences (placeholder q.1) x = 0) :
    fillIn x q = x := by
  have hcount : occurrences (placeholder q.1) (x ++ []) = occurrences (placeholder q.1) [] := by
    rw [List.append_nil, h]
    rfl
  have hstay := replaceFrom_append_of_eq q.2.toList hcount
  simpa [fillIn, replaceFrom] using hstay

theorem fillInAll_of_absent : ∀ {params : List (String × String)},
    (∀ q ∈ params, occurrences (placeholder q.1) x = 0) → fillInAll params x = x
  | [], _ => rfl
  | q :: params, h => by
    rw [fillInAll, List.foldl_cons, fillIn_of_absent (h q List.mem_cons_self)]
    exact fillInAll_of_absent fun r hr => h r (List.mem_cons_of_mem _ hr)

/-- **A hole gets the value of its parameter**, in which the later ones are filled in. -/
theorem fillInAll_placeholder (hm : NoBraces m) : ∀ {params : List (String × String)},
    (∀ q ∈ params, IsName q.1) → fillInAll params (placeholder m) = valueOf (settled params) m
  | [], _ => rfl
  | (name, value) :: rest, hn => by
    have hrest : ∀ q ∈ rest, IsName q.1 := fun q hq => hn q (List.mem_cons_of_mem _ hq)
    rw [fillInAll, List.foldl_cons, settled, valueOf, Json.lookup_cons]
    by_cases hname : name = m
    · have hself : fillIn (placeholder m) (name, value) = value.toList := by
        have h := replaceFrom_append_self (placeholder_ne_nil m) value.toList []
        simpa [fillIn, hname, replaceFrom] using h
      rw [if_pos hname, hself]
      simp [fillInAll]
    · have hcount := occurrences_placeholder (hn _ List.mem_cons_self).noBraces hm []
      rw [List.append_nil, if_neg (Ne.symm hname)] at hcount
      rw [if_neg hname, fillIn_of_absent (q := (name, value)) hcount]
      exact fillInAll_placeholder hm hrest

/-- Values in which no later placeholder occurs stay as they are. -/
theorem settled_of_absent : ∀ {params : List (String × String)},
    params.Pairwise (fun q r => occurrences (placeholder r.1) q.2.toList = 0) →
      settled params = params
  | [], _ => rfl
  | (name, value) :: rest, h => by
    obtain ⟨hfirst, hrest⟩ := List.pairwise_cons.mp h
    rw [settled, fillInAll_of_absent hfirst, String.ofList_toList, settled_of_absent hrest]

/-- A body of the catalogue, with the value of each parameter settled. -/
theorem render_of_isName {p : Purpose} (ht : t ∈ catalogue p) (hn : ∀ q ∈ params, IsName q.1) :
    t.render params = t.filled (settled params) := by
  have hkept := keptApart_catalogue p t ht
  have hholes : expand (fun m => fillInAll params (placeholder m)) t.parts =
      expand (valueOf (settled params)) t.parts := by
    refine List.flatMap_congr fun part hpart => ?_
    cases part with
    | char c => rfl
    | hole m => exact fillInAll_placeholder (noBraces_of_mem hpart) hn
  rw [render_eq, ← expand_parts, fillInAll_expand hkept _ hn, hholes, filled]

/-- No value holds the placeholder of another parameter. -/
def Unmixed (params : List (String × String)) : Prop :=
  ∀ q ∈ params, ∀ r ∈ params, q ≠ r → occurrences (placeholder r.1) q.2.toList = 0

theorem settled_of_unmixed (hd : (params.map (·.1)).Nodup) (h : Unmixed params) :
    settled params = params :=
  settled_of_absent ((List.Nodup.of_map _ hd).pairwise_of_forall_ne h)

theorem Unmixed.perm {params' : List (String × String)} (h : Unmixed params)
    (hp : params'.Perm params) : Unmixed params' :=
  fun q hq r hr => h q (hp.mem_iff.mp hq) r (hp.mem_iff.mp hr)

/-- **What rendering a template of the catalogue gives.** The body has a hole wherever it has a
placeholder, and is the text of its parts. If each of the parameters, whose names are distinct, finds
its placeholder in holes only once those in front of it are filled in, the body is rendered as it is
filled: with the values as they are, in any order of the parameters. If there are no braces and none
of the marks in the names, a hole gets the value of its parameter with the later ones filled in; so if
no value holds the placeholder of another parameter, the parameters in every order give the same text,
the body with their values as they are. -/
theorem render_exact {p : Purpose} (ht : t ∈ catalogue p) (hd : (params.map (·.1)).Nodup) :
    (expand placeholder t.parts = t.body.toList ∧ ∀ name, NoBraces name →
      t.parts.count (.hole name) = occurrences (placeholder name) t.body.toList) ∧
    (FindsHolesOnly t.parts [] params → t.render params = t.filled params) ∧
    (∀ params', params'.Perm params → t.filled params' = t.filled params) ∧
    ((∀ q ∈ params, IsName q.1) → t.render params = t.filled (settled params)) ∧
    ((∀ q ∈ params, IsName q.1) → Unmixed params →
      ∀ params', params'.Perm params → t.render params' = t.filled params) := by
  refine ⟨⟨expand_parts t, fun name hn => count_hole hn t⟩, render_of_findsHolesOnly hd,
    fun params' hp => filled_of_perm hd hp t, render_of_isName ht, fun hn hm params' hp => ?_⟩
  have hd' : (params'.map (·.1)).Nodup := (hp.map _).nodup_iff.mpr hd
  rw [render_of_isName ht fun q hq => hn q (hp.mem_iff.mp hq),
    settled_of_unmixed hd' (hm.perm hp), filled_of_perm hd hp]

/-- The template that adds up two values. -/
def sum : Template := ⟨"sum", "Sum", ["a", "b"], "get('\x7b\x7ba\x7d\x7d') + get('\x7b\x7bb\x7d\x7d')"⟩

/-- Braces that make up no other parameter's placeholder stay in either order, and a name with a mark
in it does no harm where its placeholder does not come about. -/
theorem render_exact_sum : sum ∈ catalogue .expression ∧
    sum.render [("b", "it's \x7b\x7bdone\x7d\x7d"), ("a", "\x7b\x7bb\x7d")] =
      "get('\x7b\x7bb\x7d') + get('it's \x7b\x7bdone\x7d\x7d')" ∧
    sum.render [("it's", "x"), ("a", "\x7b\x7bdone\x7d\x7d")] =
      "get('\x7b\x7bdone\x7d\x7d') + get('\x7b\x7bb\x7d\x7d')" := by
  have hsum : sum ∈ catalogue .expression := List.mem_cons_self
  have hnames : ([("a", "\x7b\x7bb\x7d"), ("b", "it's \x7b\x7bdone\x7d\x7d")].map Prod.fst).Nodup := by
    decide
  have hmarked : ([("it's", "x"), ("a", "\x7b\x7bdone\x7d\x7d")].map Prod.fst).Nodup := by decide
  obtain ⟨-, -, -, -, horder⟩ := render_exact hsum hnames
  obtain ⟨-, hholes, -⟩ := render_exact hsum hmarked
  refine ⟨hsum, ?_, ?_⟩
  · have hplain : ∀ q ∈ [("a", "\x7b\x7bb\x7d"), ("b", "it's \x7b\x7bdone\x7d\x7d")], IsName q.1 := by
      decide +kernel
    have hunmixed : Unmixed [("a", "\x7b\x7bb\x7d"), ("b", "it's \x7b\x7bdone\x7d\x7d")] := by
      unfold Unmixed
      decide +kernel
    rw [horder hplain hunmixed _ (List.Perm.swap _ _ _)]
    decide +kernel
  · rw [hholes (by decide +kernel)]
    decide +kernel

/-- **A value is not left as it is** if it holds the placeholder of a later parameter, or if with the
text around it a placeholder comes about; so the order of the parameters makes a difference. -/
theorem values_leak : sum ∈ catalogue .expression ∧ ["a", "b", "x') + get('"].Nodup ∧
    sum.filled [("a", "\x7b\x7bb\x7d\x7d"), ("b", "x")] = "get('\x7b\x7bb\x7d\x7d') + get('x')" ∧
    sum.render [("a", "\x7b\x7bb\x7d\x7d"), ("b", "x")] = "get('x') + get('x')" ∧
    sum.render [("b", "x"), ("a", "\x7b\x7bb\x7d\x7d")] = "get('\x7b\x7bb\x7d\x7d') + get('x')" ∧
    sum.filled [("a", "\x7b\x7bx"), ("b", "\x7d\x7d"), ("x') + get('", "y")] =
      "get('\x7b\x7bx') + get('\x7d\x7d')" ∧
    sum.render [("a", "\x7b\x7bx"), ("b", "\x7d\x7d"), ("x') + get('", "y")] = "get('y')" := by
  decide +kernel

end ReactiveTree.Template
