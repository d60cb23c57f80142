import ReactiveTree.Proofs.Json.Numerals
import ReactiveTree.Proofs.Json.Strings

/-!
# Texts of JSON values

A value is spelled by texts that differ in their white space (`Spells`); the compact form and the
form with one member a line are two of them. The scanner reads every text that spells a value as
that value, if its numbers can be written at all and its containers are not nested too deeply
(`scanValue_of_spells`). So what is written in either form is read back (`read?_of_spells`).

Key definitions: `Json.IsExact`, `Json.Spells`.
Key theorems: `spells_compact`, `spells_pretty`, `scan_of_spells`, `read?_of_spells`.
-/
namespace ReactiveTree.Json

open Text (isAsciiDigit)

/-! ### Spellings -/

mutual
/-- A text says all of the value: its doubles are finite, and its integers are such as a text can
hold. -/
def IsExact : Json → Prop
  | .int n => Word64.minInt ≤ n ∧ n < Word64.count
  | .double x => x.isFinite = true
  | .arr items => ItemsExact items
  | .obj members => MembersExact members
  | .broken => False
  | .unusable => False
  | _ => True

def ItemsExact : List Json → Prop
  | [] => True
  | j :: js => IsExact j ∧ ItemsExact js

def MembersExact : List (String × Json) → Prop
  | [] => True
  | (_, j) :: ms => IsExact j ∧ MembersExact ms
end

/-- Nothing but white space. -/
def Blank (gap : List Char) : Prop := ∀ c ∈ gap, isSpace c = true

/-- What stands before an item or a member: a comma, unless it is the first. -/
def separator (first : Bool) : List Char := if first then [] else [',']

mutual
/-- A text of the value. White space may stand before items and members, after colons, and before
closing brackets. -/
def Spells : Json → List Char → Prop
  | .arr items, text => ∃ body, SpellsItems true items body ∧ text = '[' :: (body ++ [']'])
  | .obj members, text =>
    ∃ body, SpellsMembers true members body ∧ text = '\x7b' :: (body ++ ['\x7d'])
  | j, text => text = writeAtom j

def SpellsItems (first : Bool) : List Json → List Char → Prop
  | [], text => Blank text
  | j :: js, text => ∃ gap body more, Blank gap ∧ Spells j body ∧ SpellsItems false js more ∧
      text = separator first ++ (gap ++ (body ++ more))

def SpellsMembers (first : Bool) : List (String × Json) → List Char → Prop
  | [], text => Blank text
  | (k, j) :: ms, text => ∃ gap inner body more, Blank gap ∧ Blank inner ∧ Spells j body ∧
      SpellsMembers false ms more ∧
        text = separator first ++ (gap ++ (quoted k ++ ':' :: (inner ++ (body ++ more))))
end

theorem blank_nil : Blank [] := nofun

theorem blank_lineBreak (level : ℕ) : Blank (lineBreak level) := fun c hc => by
  obtain rfl | hc := List.mem_cons.mp hc
  · rfl
  · rw [List.eq_of_mem_replicate hc]
    rfl

/-! ### The written forms -/

mutual
/-- The compact form is a text of the value. -/
theorem spells_writeCompact : ∀ j : Json, Spells j (writeCompact j)
  | .arr [] => ⟨[], blank_nil, rfl⟩
  | .arr (j :: js) => ⟨_, spellsItems_writeItems true (j :: js) (List.cons_ne_nil _ _), rfl⟩
  | .obj [] => ⟨[], blank_nil, rfl⟩
  | .obj (m :: ms) => ⟨_, spellsMembers_writeMembers true (m :: ms) (List.cons_ne_nil _ _), rfl⟩
  | .null => rfl
  | .bool _ => rfl
  | .int _ => rfl
  | .double _ => rfl
  | .str _ => rfl
  | .broken => rfl
  | .unusable => rfl

theorem spellsItems_writeItems : ∀ (first : Bool) (items : List Json), items ≠ [] →
    SpellsItems first items (separator first ++ writeItems items)
  | _, [], h => absurd rfl h
  | first, [j], _ => ⟨[], _, [], blank_nil, spells_writeCompact j, blank_nil, by simp [writeItems]⟩
  | first, j :: j' :: js, _ => ⟨[], _, _, blank_nil, spells_writeCompact j,
      spellsItems_writeItems false (j' :: js) (List.cons_ne_nil _ _),
      by simp [writeItems, separator]⟩

theorem spellsMembers_writeMembers : ∀ (first : Bool) (ms : List (String × Json)), ms ≠ [] →
    SpellsMembers first ms (separator first ++ writeMembers ms)
  | _, [], h => absurd rfl h
  | first, [(k, j)], _ => ⟨[], [], _, [], blank_nil, blank_nil, spells_writeCompact j, blank_nil,
      by simp [writeMembers]⟩
  | first, (k, j) :: m :: ms, _ => ⟨[], [], _, _, blank_nil, blank_nil, spells_writeCompact j,
      spellsMembers_writeMembers false (m :: ms) (List.cons_ne_nil _ _),
      by simp [writeMembers, separator]⟩
end

mutual
/-- The form with one item or member a line is a text of the value. -/
theorem spells_writePretty : ∀ (level : ℕ) (j : Json), Spells j (writePretty level j)
  | _, .arr [] => ⟨[], blank_nil, rfl⟩
  | level, .arr (j :: js) => ⟨_, spellsItems_prettyItems level (level + 1) true (j :: js)
      (List.cons_ne_nil _ _), by simp [writePretty, separator]⟩
  | _, .obj [] => ⟨[], blank_nil, rfl⟩
  | level, .obj (m :: ms) => ⟨_, spellsMembers_prettyMembers level (level + 1) true (m :: ms)
      (List.cons_ne_nil _ _), by simp [writePretty, separator]⟩
  | _, .null => rfl
  | _, .bool _ => rfl
  | _, .int _ => rfl
  | _, .double _ => rfl
  | _, .str _ => rfl
  | _, .broken => rfl
  | _, .unusable => rfl

theorem spellsItems_prettyItems : ∀ (outer level : ℕ) (first : Bool) (items : List Json),
    items ≠ [] →
      SpellsItems first items (separator first ++ (prettyItems level items ++ lineBreak outer))
  | _, _, _, [], h => absurd rfl h
  | outer, level, first, [j], _ => ⟨lineBreak level, _, lineBreak outer, blank_lineBreak level,
      spells_writePretty level j, blank_lineBreak outer, by simp [prettyItems]⟩
  | outer, level, first, j :: j' :: js, _ => ⟨lineBreak level, _, _, blank_lineBreak level,
      spells_writePretty level j,
      spellsItems_prettyItems outer level false (j' :: js) (List.cons_ne_nil _ _),
      by simp [prettyItems, separator]⟩

theorem spellsMembers_prettyMembers : ∀ (outer level : ℕ) (first : Bool)
    (ms : List (String × Json)), ms ≠ [] →
      SpellsMembers first ms (separator first ++ (prettyMembers level ms ++ lineBreak outer))
  | _, _, _, [], h => absurd rfl h
  | outer, level, first, [(k, j)], _ => ⟨lineBreak level, [' '], _, lineBreak outer,
      blank_lineBreak level, by simp [Blank, isSpace], spells_writePretty level j,
      blank_lineBreak outer, by simp [prettyMembers]⟩
  | outer, level, first, (k, j) :: m :: ms, _ => ⟨lineBreak level, [' '], _, _,
      blank_lineBreak level, by simp [Blank, isSpace], spells_writePretty level j,
      spellsMembers_prettyMembers outer level false (m :: ms) (List.cons_ne_nil _ _),
      by simp [prettyMembers, separator]⟩
end

/-! ### Reading -/

variable {gap rest : List Char} {c : Char}

theorem skipSpace_append (h : Blank gap) (hc : isSpace c = false) (rest : List Char) :
    skipSpace (gap ++ c :: rest) = c :: rest := by
  unfold skipSpace
  rw [List.dropWhile_append_of_pos h, List.dropWhile_cons_of_neg (by simp [hc])]

/-- The scanner looks at the first character that is no white space. -/
theorem scanValue_cons (fuel level : ℕ) (h : Blank gap) (hc : isSpace c = false) :
    scanValue (fuel + 1) level (gap ++ c :: rest) =
      if c = '"' then scanStringValue rest
      else if c = '[' then limitDepth level (scanItems fuel (level + 1) true [] rest)
      else if c = '\x7b' then limitDepth level (scanMembers fuel (level + 1) true [] rest)
      else if c = '-' then scanNumber true rest
      else if isAsciiDigit c then scanNumber false (c :: rest)
      else if c = 't' then scanWord ['r', 'u', 'e'] (.bool true) rest
      else if c = 'f' then scanWord ['a', 'l', 's', 'e'] (.bool false) rest
      else if c = 'n' then scanWord ['u', 'l', 'l'] .null rest
      else ⟨.broken, none⟩ := by
  rw [scanValue, skipSpace_append h hc]

theorem of_isAsciiDigit (h : isAsciiDigit c = true) :
    isSpace c = false ∧ c ≠ '"' ∧ c ≠ '[' ∧ c ≠ '\x7b' ∧ c ≠ '-' := by
  refine ⟨?_, ?_, ?_, ?_, ?_⟩
  · rw [← Bool.not_eq_true]
    intro hs
    unfold isSpace at hs
    simp only [Bool.or_eq_true, beq_iff_eq] at hs
    rcases hs with ((rfl | rfl) | rfl) | rfl <;> revert h <;> decide
  all_goals
    rintro rfl
    revert h
    decide

/-- A numeral is read as its number. -/
theorem scanValue_of_numeral {text : List Char} {j : Json} (h : Numeral text j) (fuel level : ℕ)
    (hgap : Blank gap) (hrest : Follows rest) :
    scanValue (fuel + 1) level (gap ++ (text ++ rest)) = ⟨j, some rest⟩ := by
  obtain ⟨negative, whole, fraction, exponent, rfl, hnum, rfl⟩ := h
  have hscan : scanNumber negative (numeral whole fraction exponent ++ rest) =
      ⟨numberValue negative whole fraction exponent, some rest⟩ :=
    scanNumber_numeral hnum hrest negative
  cases negative with
  | true =>
    rw [signPart, if_pos rfl, List.append_assoc, List.singleton_append,
      scanValue_cons fuel level hgap rfl]
    simpa using hscan
  | false =>
    obtain ⟨c, cs, hc⟩ := List.exists_cons_of_ne_nil hnum.ne_nil
    have hdigit : isAsciiDigit c = true := hnum.digits c (hc ▸ List.mem_cons_self)
    obtain ⟨hs, h1, h2, h3, h4⟩ := of_isAsciiDigit hdigit
    have htext : numeral whole fraction exponent ++ rest =
        c :: (cs ++ (fractionPart fraction ++ exponentPart exponent) ++ rest) := by
      rw [numeral, hc]
      rfl
    rw [signPart, if_neg Bool.false_ne_true, List.nil_append, htext,
      scanValue_cons fuel level hgap hs, if_neg h1, if_neg h2, if_neg h3, if_neg h4, if_pos hdigit,
      ← htext, hscan]

theorem scanWord_append (word : List Char) (value : Json) (rest : List Char) :
    scanWord word value (word ++ rest) = ⟨value, some rest⟩ := by
  unfold scanWord
  rw [List.take_left, if_pos rfl, List.drop_left]

/-- A value that is not a container is read as it was written. -/
theorem scanValue_atom (fuel level : ℕ) (hgap : Blank gap) (hrest : Follows rest) : ∀ j : Json,
    IsExact j → (∀ items, j ≠ .arr items) → (∀ members, j ≠ .obj members) →
      scanValue (fuel + 1) level (gap ++ (writeAtom j ++ rest)) = ⟨j, some rest⟩
  | .null, _, _, _ =>
    (scanValue_cons fuel level hgap rfl).trans (scanWord_append ['u', 'l', 'l'] .null rest)
  | .bool true, _, _, _ =>
    (scanValue_cons fuel level hgap rfl).trans (scanWord_append ['r', 'u', 'e'] (.bool true) rest)
  | .bool false, _, _, _ =>
    (scanValue_cons fuel level hgap rfl).trans
      (scanWord_append ['a', 'l', 's', 'e'] (.bool false) rest)
  | .int n, h, _, _ => scanValue_of_numeral (numeral_writeInt h.1 h.2) fuel level hgap hrest
  | .double x, h, _, _ => scanValue_of_numeral (numeral_writeDouble h) fuel level hgap hrest
  | .str s, _, _, _ => by
    rw [writeAtom, quoted, List.cons_append, List.cons_append, List.append_assoc,
      List.singleton_append, scanValue_cons fuel level hgap rfl, if_pos rfl, scanStringValue_quoted]
  | .arr items, _, h, _ => absurd rfl (h items)
  | .obj members, _, _, h => absurd rfl (h members)

theorem exists_cons_of_numeral {text : List Char} {j : Json} (h : Numeral text j) :
    ∃ c cs, text = c :: cs ∧ isSpace c = false ∧ c ≠ ']' := by
  obtain ⟨negative, whole, fraction, exponent, rfl, hnum, -⟩ := h
  cases negative with
  | true => exact ⟨'-', _, rfl, rfl, by decide⟩
  | false =>
    obtain ⟨c, cs, hc⟩ := List.exists_cons_of_ne_nil hnum.ne_nil
    have hdigit : isAsciiDigit c = true := hnum.digits c (hc ▸ List.mem_cons_self)
    refine ⟨c, _, by rw [numeral, hc]; rfl, (of_isAsciiDigit hdigit).1, ?_⟩
    rintro rfl
    revert hdigit
    decide

/-- The first character of a text of a value. -/
theorem exists_cons_of_spells : ∀ {j : Json} {text : List Char}, Spells j text → IsExact j →
    ∃ c cs, text = c :: cs ∧ isSpace c = false ∧ c ≠ ']'
  | .arr _, _, ⟨_, _, rfl⟩, _ => ⟨_, _, rfl, rfl, by decide⟩
  | .obj _, _, ⟨_, _, rfl⟩, _ => ⟨_, _, rfl, rfl, by decide⟩
  | .null, _, h, _ => ⟨_, _, h, rfl, by decide⟩
  | .bool true, _, h, _ => ⟨_, _, h, rfl, by decide⟩
  | .bool false, _, h, _ => ⟨_, _, h, rfl, by decide⟩
  | .int _, _, h, he => h ▸ exists_cons_of_numeral (numeral_writeInt he.1 he.2)
  | .double _, _, h, he => h ▸ exists_cons_of_numeral (numeral_writeDouble he)
  | .str _, _, h, _ => ⟨_, _, h, rfl, by decide⟩

theorem follows_of_blank (h : Blank gap) {close : Char} (hc : isDelimiter close = true) :
    Follows (gap ++ close :: rest) := by
  cases gap with
  | nil => exact follows_cons hc _
  | cons c cs =>
    refine follows_cons ?_ _
    rw [isDelimiter, h c List.mem_cons_self, Bool.or_true]

/-- Behind an item stands a comma or, after white space, the closing bracket. -/
theorem follows_of_spellsItems {js : List Json} {more : List Char} (h : SpellsItems false js more) :
    Follows (more ++ ']' :: rest) := by
  cases js with
  | nil => exact follows_of_blank h rfl
  | cons j js =>
    obtain ⟨gap, body, more, -, -, -, rfl⟩ := h
    exact follows_cons rfl _

theorem follows_of_spellsMembers {ms : List (String × Json)} {more : List Char}
    (h : SpellsMembers false ms more) : Follows (more ++ '\x7d' :: rest) := by
  cases ms with
  | nil => exact follows_of_blank h rfl
  | cons m ms =>
    obtain ⟨gap, inner, body, more, -, -, -, -, rfl⟩ := h
    exact follows_cons rfl _

/-- An item is read, and what follows it is left. -/
theorem scanItems_cons (fuel level : ℕ) (first : Bool) (acc : List Json) {j : Json}
    {body tail : List Char} (hgap : Blank gap)
    (hbody : ∃ c cs, body = c :: cs ∧ isSpace c = false ∧ c ≠ ']')
    (hitem : ∀ {gap' : List Char}, Blank gap' →
      scanValue fuel level (gap' ++ (body ++ tail)) = ⟨j, some tail⟩) :
    scanItems (fuel + 1) level first acc (separator first ++ (gap ++ (body ++ tail))) =
      scanItems fuel level false (j :: acc) tail := by
  cases first with
  | true =>
    obtain ⟨c, cs, rfl, hspace, hclose⟩ := hbody
    have hfirst := hitem blank_nil
    rw [List.nil_append, List.cons_append] at hfirst
    rw [separator, if_pos rfl, List.nil_append, List.cons_append, scanItems,
      skipSpace_append hgap hspace]
    dsimp only
    rw [if_neg hclose, if_pos rfl]
    dsimp only
    rw [hfirst]
  | false =>
    have hcomma := skipSpace_append blank_nil (c := ',') rfl (gap ++ (body ++ tail))
    rw [List.nil_append] at hcomma
    rw [separator, if_neg Bool.false_ne_true, List.singleton_append, scanItems, hcomma]
    dsimp only
    rw [if_neg (by decide), if_neg Bool.false_ne_true, if_pos rfl]
    dsimp only
    rw [hitem hgap]

/-- A member is read, and what follows it is left. -/
theorem scanMembers_cons (fuel level : ℕ) (first : Bool) (acc : List (String × Json)) (k : String)
    {j : Json} {inner body tail : List Char} (hgap : Blank gap)
    (hmember : scanValue fuel level (inner ++ (body ++ tail)) = ⟨j, some tail⟩) :
    scanMembers (fuel + 1) level first acc
        (separator first ++ (gap ++ (quoted k ++ ':' :: (inner ++ (body ++ tail))))) =
      scanMembers fuel level false ((k, j) :: acc) tail := by
  have hquoted : quoted k ++ ':' :: (inner ++ (body ++ tail)) =
      '"' :: (k.toList.flatMap escapeChar ++ '"' :: ':' :: (inner ++ (body ++ tail))) := by
    simp [quoted]
  have hkey := skipSpace_append hgap (c := '"') rfl
    (k.toList.flatMap escapeChar ++ '"' :: ':' :: (inner ++ (body ++ tail)))
  have hcolon := skipSpace_append blank_nil (c := ':') rfl (inner ++ (body ++ tail))
  rw [List.nil_append] at hcolon
  rw [hquoted]
  cases first with
  | true =>
    rw [separator, if_pos rfl, List.nil_append, scanMembers, hkey]
    dsimp only
    rw [if_neg (by decide), if_pos rfl]
    simp only [scanStringValue_quoted, hcolon, hmember]
  | false =>
    have hcomma := skipSpace_append blank_nil (c := ',') rfl (gap ++
      '"' :: (k.toList.flatMap escapeChar ++ '"' :: ':' :: (inner ++ (body ++ tail))))
    rw [List.nil_append] at hcomma
    rw [separator, if_neg Bool.false_ne_true, List.singleton_append, scanMembers, hcomma]
    dsimp only
    rw [if_neg (by decide), if_neg Bool.false_ne_true, if_pos rfl, hkey]
    simp only [scanStringValue_quoted, hcolon, hmember]

mutual
/-- **A text of a value is read as the value.** -/
theorem scanValue_of_spells : ∀ (j : Json) {text : List Char} (fuel level : ℕ), Spells j text →
    IsExact j → text.length ≤ fuel + 1 → level + j.depth ≤ maxDepth → ∀ {gap rest : List Char},
      Blank gap → Follows rest →
        scanValue (fuel + 1) level (gap ++ (text ++ rest)) = ⟨j, some rest⟩
  | .arr items, _, fuel, level, ⟨body, hbody, rfl⟩, he, hfuel, hdepth, gap, rest, hgap, hrest => by
    rw [IsExact] at he
    rw [depth] at hdepth
    rw [List.length_cons, List.length_append, List.length_singleton] at hfuel
    rw [List.cons_append, List.append_assoc, List.singleton_append,
      scanValue_cons fuel level hgap rfl, if_neg (by decide), if_pos rfl,
      scanItems_of_spells items fuel (level + 1) true [] hbody he (by omega) (by omega),
      limitDepth, if_neg (by omega)]
    rfl
  | .obj members, _, fuel, level, ⟨body, hbody, rfl⟩, he, hfuel, hdepth, gap, rest, hgap,
      hrest => by
    rw [IsExact] at he
    rw [depth] at hdepth
    rw [List.length_cons, List.length_append, List.length_singleton] at hfuel
    rw [List.cons_append, List.append_assoc, List.singleton_append,
      scanValue_cons fuel level hgap rfl, if_neg (by decide), if_neg (by decide), if_pos rfl,
      scanMembers_of_spells members fuel (level + 1) true [] hbody he (by omega) (by omega),
      limitDepth, if_neg (by omega)]
    rfl
  | .null, _, fuel, level, h, he, _, _, _, _, hgap, hrest =>
    h ▸ scanValue_atom fuel level hgap hrest _ he nofun nofun
  | .bool _, _, fuel, level, h, he, _, _, _, _, hgap, hrest =>
    h ▸ scanValue_atom fuel level hgap hrest _ he nofun nofun
  | .int _, _, fuel, level, h, he, _, _, _, _, hgap, hrest =>
    h ▸ scanValue_atom fuel level hgap hrest _ he nofun nofun
  | .double _, _, fuel, level, h, he, _, _, _, _, hgap, hrest =>
    h ▸ scanValue_atom fuel level hgap hrest _ he nofun nofun
  | .str _, _, fuel, level, h, he, _, _, _, _, hgap, hrest =>
    h ▸ scanValue_atom fuel level hgap hrest _ he nofun nofun

theorem scanItems_of_spells : ∀ (items : List Json) {text : List Char} (fuel level : ℕ)
    (first : Bool) (acc : List Json), SpellsItems first items text → ItemsExact items →
      text.length < fuel → level + itemsDepth items ≤ maxDepth → ∀ {rest : List Char},
        scanItems fuel level first acc (text ++ ']' :: rest) =
          ⟨.arr (acc.reverse ++ items), some rest⟩
  | [], text, fuel, level, first, acc, h, he, hfuel, hdepth, rest => by
    obtain ⟨fuel, rfl⟩ := Nat.exists_eq_add_one_of_ne_zero (Nat.ne_zero_of_lt hfuel)
    rw [scanItems, skipSpace_append h rfl]
    dsimp only
    rw [if_pos rfl, List.append_nil]
  | j :: js, _, fuel, level, first, acc, ⟨gap, body, more, hgap, hj, hjs, rfl⟩, he, hfuel,
      hdepth, rest => by
    rw [ItemsExact] at he
    rw [itemsDepth] at hdepth
    have hbody := exists_cons_of_spells hj he.1
    have hlen : 1 ≤ body.length := by
      obtain ⟨c, cs, rfl, -⟩ := hbody
      exact Nat.succ_le_succ (Nat.zero_le _)
    simp only [List.length_append] at hfuel
    obtain ⟨fuel, rfl⟩ : ∃ f, fuel = f + 2 := ⟨fuel - 2, by omega⟩
    rw [List.append_assoc, List.append_assoc, List.append_assoc,
      scanItems_cons (fuel + 1) level first acc hgap hbody fun hgap' =>
        scanValue_of_spells j fuel level hj he.1 (by omega) (by omega) hgap'
          (follows_of_spellsItems hjs),
      scanItems_of_spells js (fuel + 1) level false (j :: acc) hjs he.2 (by omega) (by omega),
      List.reverse_cons, List.append_assoc, List.singleton_append]

theorem scanMembers_of_spells : ∀ (members : List (String × Json)) {text : List Char}
    (fuel level : ℕ) (first : Bool) (acc : List (String × Json)),
      SpellsMembers first members text → MembersExact members → text.length < fuel →
        level + membersDepth members ≤ maxDepth → ∀ {rest : List Char},
          scanMembers fuel level first acc (text ++ '\x7d' :: rest) =
            ⟨.obj (acc.reverse ++ members), some rest⟩
  | [], text, fuel, level, first, acc, h, he, hfuel, hdepth, rest => by
    obtain ⟨fuel, rfl⟩ := Nat.exists_eq_add_one_of_ne_zero (Nat.ne_zero_of_lt hfuel)
    rw [scanMembers, skipSpace_append h rfl]
    dsimp only
    rw [if_pos rfl, List.append_nil]
  | (k, j) :: ms, _, fuel, level, first, acc,
      ⟨gap, inner, body, more, hgap, hinner, hj, hms, rfl⟩, he, hfuel, hdepth, rest => by
    rw [MembersExact] at he
    rw [membersDepth] at hdepth
    simp only [List.length_append, List.length_cons] at hfuel
    obtain ⟨fuel, rfl⟩ : ∃ f, fuel = f + 2 := ⟨fuel - 2, by omega⟩
    rw [List.append_assoc, List.append_assoc, List.append_assoc, List.cons_append,
      List.append_assoc, List.append_assoc,
      scanMembers_cons (fuel + 1) level first acc k hgap
        (scanValue_of_spells j fuel level hj he.1 (by omega) (by omega) hinner
          (follows_of_spellsMembers hms)),
      scanMembers_of_spells ms (fuel + 1) level false ((k, j) :: acc) hms he.2 (by omega)
        (by omega),
      List.reverse_cons, List.append_assoc, List.singleton_append]
end

/-! ### Whole texts -/

/-- **A text that spells a value is read as the value**, and nothing is left of it. -/
theorem scan_of_spells {j : Json} {text : String} (h : Spells j text.toList) (he : j.IsExact)
    (hdepth : j.depth ≤ maxDepth) : scan text = (j, true) := by
  have hvalue := scanValue_of_spells j text.toList.length 0 h he (Nat.le_succ _) (by omega)
    blank_nil follows_nil
  rw [List.nil_append, List.append_nil] at hvalue
  unfold scan
  dsimp only
  rw [hvalue]
  rfl

mutual
/-- A value that a text can hold is sound. -/
theorem isSound_of_isExact : ∀ j : Json, IsExact j → j.isSound = true
  | .arr items, h => allSound_of_itemsExact items h
  | .obj members, h => membersSound_of_membersExact members h
  | .null, _ => rfl
  | .bool _, _ => rfl
  | .int _, _ => rfl
  | .double _, _ => rfl
  | .str _, _ => rfl

theorem allSound_of_itemsExact : ∀ items : List Json, ItemsExact items → allSound items = true
  | [], _ => rfl
  | j :: js, h => by
    rw [allSound, isSound_of_isExact j h.1, allSound_of_itemsExact js h.2, Bool.true_and]

theorem membersSound_of_membersExact : ∀ members : List (String × Json), MembersExact members →
    membersSound members = true
  | [], _ => rfl
  | (_, j) :: ms, h => by
    rw [membersSound, isSound_of_isExact j h.1, membersSound_of_membersExact ms h.2,
      Bool.true_and]
end

theorem itemsExact_iff (items : List Json) : ItemsExact items ↔ ∀ j ∈ items, IsExact j := by
  induction items with
  | nil => simp [ItemsExact]
  | cons j js ih => rw [ItemsExact, List.forall_mem_cons, ih]

theorem membersExact_iff (members : List (String × Json)) :
    MembersExact members ↔ ∀ m ∈ members, IsExact m.2 := by
  induction members with
  | nil => simp [MembersExact]
  | cons m ms ih => rw [MembersExact, List.forall_mem_cons, ih]

/-- **A text that spells a value is read back**, with the keys of its objects sorted. -/
theorem read?_of_spells {j : Json} {text : String} (h : Spells j text.toList) (he : j.IsExact)
    (hdepth : j.depth ≤ maxDepth) : read? text = some j.sortKeys := by
  unfold read?
  rw [scan_of_spells h he hdepth]
  dsimp only
  rw [isSound_of_isExact j he]
  rfl

theorem spells_compact (j : Json) : Spells j j.compact.toList := by
  rw [compact, String.toList_ofList]
  exact spells_writeCompact j

theorem spells_pretty (j : Json) : Spells j j.pretty.toList := by
  rw [pretty, String.toList_ofList]
  exact spells_writePretty 0 j

end ReactiveTree.Json
