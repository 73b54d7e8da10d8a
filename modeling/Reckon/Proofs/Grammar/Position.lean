import Mathlib.Data.List.DropRight
import Mathlib.Data.List.Permutation
import Reckon.Proofs.Grammar.Reading
import Reckon.Proofs.Token.Cover

/-!
# Where the nodes of a line stand

The nodes that are read from a line stand on its tokens: each of them starts where a token starts and
ends where a token ends, and the children of a node lie within it, one behind the other
(`parseLine_positions`). All of it follows from two facts: the tokens of a line are in order and apart
from each other (`Row`), and the span of a node is made from its own tokens (`ReadFrom`). Parentheses
belong to no span but that of a node around them.

Columns are counted in the whole line, although only the text between the blanks at its ends is
scanned, so a column less one is an index into the line (`exists_trim`).
-/

namespace Reckon

/-! ### Tokens in a row -/

/-- The tokens stand in the given line, one behind the other. -/
structure Row (line : Int) (ts : List Token) : Prop where
  inLine : ∀ t ∈ ts, t.span.start.line = line ∧ t.span.stop.line = line
  forward : ∀ t ∈ ts, t.span.start.column < t.span.stop.column
  ordered : ts.Pairwise fun t u => t.span.stop.column ≤ u.span.start.column

namespace Row

variable {line : Int} {ts us : List Token} {t u : Token}

theorem of_sublist (h : Row line ts) (hsub : us.Sublist ts) : Row line us :=
  ⟨fun t ht => h.inLine t (hsub.subset ht), fun t ht => h.forward t (hsub.subset ht),
    h.ordered.sublist hsub⟩

theorem left (h : Row line (ts ++ us)) : Row line ts :=
  h.of_sublist (List.sublist_append_left ts us)

theorem right (h : Row line (ts ++ us)) : Row line us :=
  h.of_sublist (List.sublist_append_right ts us)

theorem tail (h : Row line (t :: ts)) : Row line ts := h.of_sublist (List.sublist_cons_self t ts)

theorem stop_le_start (h : Row line (ts ++ us)) (ht : t ∈ ts) (hu : u ∈ us) :
    t.span.stop.column ≤ u.span.start.column :=
  (List.pairwise_append.1 h.ordered).2.2 t ht u hu

/-- The first token starts before all others. -/
theorem start_le (h : Row line (t :: ts)) (hu : u ∈ ts) :
    t.span.start.column ≤ u.span.start.column :=
  Int.le_trans (Int.le_of_lt (h.forward t List.mem_cons_self))
    ((List.pairwise_cons.1 h.ordered).1 u hu)

/-- No token ends behind the last one. -/
theorem le_stop (h : Row line (ts ++ [t])) (hu : u ∈ ts ++ [t]) :
    u.span.stop.column ≤ t.span.stop.column := by
  rcases List.mem_append.1 hu with hu | hu
  · exact Int.le_trans (h.stop_le_start hu (List.mem_singleton_self t))
      (Int.le_of_lt (h.forward t List.mem_concat_self))
  · obtain rfl := List.mem_singleton.1 hu
    exact Int.le_refl _

end Row

/-- **Tokens that are laid out in a line are a row.** -/
theorem Laid.row {here stop : Location} {cs : List Char} {ts : List Token}
    (h : Laid here cs ts stop) : Row here.line ts := by
  have hplace : ∀ t ∈ ts, ∃ m k : Nat, 0 < k ∧
      t.span = ⟨here.advance m, here.advance (m + k)⟩ := by
    intro t ht
    obtain ⟨before, chars, after, -, hne, -, hspan⟩ := h.place t ht
    exact ⟨before.length, chars.length, List.length_pos_iff.mpr hne, hspan⟩
  refine ⟨fun t ht => ?_, fun t ht => ?_, h.pairwise.imp_of_mem fun {t u} ht hu hle => ?_⟩
  · obtain ⟨m, k, -, hspan⟩ := hplace t ht
    rw [hspan]
    exact ⟨rfl, rfl⟩
  · obtain ⟨m, k, hk, hspan⟩ := hplace t ht
    simp only [hspan, Location.advance]
    omega
  · -- in one line, columns and offsets differ by a constant
    obtain ⟨m, k, -, ht⟩ := hplace t ht
    obtain ⟨m', k', -, hu⟩ := hplace u hu
    simp only [ht, hu, Location.advance] at hle ⊢
    omega

/-! ### Nodes on tokens -/

/-- The node stands on the tokens `ts`: it starts and ends with tokens, and its children lie within
it, one behind the other. -/
structure Node.StandsOn (ts : List Token) (n : Node) : Prop where
  start : ∃ t ∈ ts, n.span.start = t.span.start
  stop : ∃ t ∈ ts, n.span.stop = t.span.stop
  forward : n.span.start.column < n.span.stop.column
  within : ∀ k ∈ n.children,
    n.span.start.column ≤ k.span.start.column ∧ k.span.stop.column ≤ n.span.stop.column
  ordered : n.children.Pairwise fun j k => j.span.stop.column ≤ k.span.start.column

namespace Node.StandsOn

variable {line : Int} {t : Token} {ts us : List Token} {n j k : Node}

theorem mono (h : n.StandsOn us) (hsub : us ⊆ ts) : n.StandsOn ts := by
  obtain ⟨t, ht, hstart⟩ := h.start
  obtain ⟨u, hu, hstop⟩ := h.stop
  exact ⟨⟨t, hsub ht, hstart⟩, ⟨u, hsub hu, hstop⟩, h.forward, h.within, h.ordered⟩

theorem start_le (h : n.StandsOn ts) (hrow : Row line (t :: ts)) :
    t.span.start.column ≤ n.span.start.column := by
  obtain ⟨u, hu, hstart⟩ := h.start
  rw [hstart]
  exact hrow.start_le hu

theorem le_stop (h : n.StandsOn (ts ++ [t])) (hrow : Row line (ts ++ [t])) :
    n.span.stop.column ≤ t.span.stop.column := by
  obtain ⟨u, hu, hstop⟩ := h.stop
  rw [hstop]
  exact hrow.le_stop hu

/-- Nodes on tokens one behind the other are one behind the other. -/
theorem stop_le_start (hj : j.StandsOn ts) (hk : k.StandsOn us) (hrow : Row line (ts ++ us)) :
    j.span.stop.column ≤ k.span.start.column := by
  obtain ⟨t, ht, hstop⟩ := hj.stop
  obtain ⟨u, hu, hstart⟩ := hk.start
  rw [hstop, hstart]
  exact hrow.stop_le_start ht hu

/-- A node without children that has the span of a token. -/
theorem of_token (hrow : Row line [t]) (hspan : n.span = t.span) (hnone : n.children = []) :
    n.StandsOn [t] where
  start := ⟨t, List.mem_singleton_self t, by rw [hspan]⟩
  stop := ⟨t, List.mem_singleton_self t, by rw [hspan]⟩
  forward := by rw [hspan]; exact hrow.forward t (List.mem_singleton_self t)
  within := by simp [hnone]
  ordered := by simp [hnone]

/-- A node that starts before its only child and ends where it does. -/
theorem of_child (hrow : Row line (t :: ts)) (hk : k.StandsOn ts)
    (hspan : n.span = ⟨t.span.start, k.span.stop⟩) (hchild : n.children = [k]) :
    n.StandsOn (t :: ts) := by
  obtain ⟨u, hu, hstop⟩ := hk.stop
  have hstart : t.span.start.column ≤ k.span.start.column := hk.start_le hrow
  refine ⟨⟨t, List.mem_cons_self, by rw [hspan]⟩,
    ⟨u, List.mem_cons_of_mem _ hu, by rw [hspan, hstop]⟩, ?_, ?_, by simp [hchild]⟩
  · rw [hspan]
    exact Int.lt_of_le_of_lt hstart hk.forward
  · rw [hchild, hspan]
    simpa using hstart

/-- An operation on two nodes one behind the other. -/
theorem of_operands (op : Operator) (hrow : Row line (ts ++ us)) (hj : j.StandsOn ts)
    (hk : k.StandsOn us) : (j.operation op k).StandsOn (ts ++ us) := by
  have hspan : (j.operation op k).span = ⟨j.span.start, k.span.stop⟩ := rfl
  have hchildren : (j.operation op k).children = [j, k] := rfl
  obtain ⟨t, ht, hstart⟩ := hj.start
  obtain ⟨u, hu, hstop⟩ := hk.stop
  have hapart : j.span.stop.column ≤ k.span.start.column := hj.stop_le_start hk hrow
  have hforward := hj.forward
  have hforward' := hk.forward
  refine ⟨⟨t, List.mem_append_left _ ht, hstart⟩, ⟨u, List.mem_append_right _ hu, hstop⟩,
    ?_, ?_, ?_⟩
  · rw [hspan]
    exact Int.lt_of_lt_of_le hforward (Int.le_trans hapart (Int.le_of_lt hforward'))
  · rw [hchildren, hspan]
    simp only [List.forall_mem_cons]
    refine ⟨⟨Int.le_refl _, by omega⟩, ⟨by omega, Int.le_refl _⟩, by simp⟩
  · rw [hchildren]
    simpa using hapart

/-- A node from the first to the last token, with children that stand behind the first one. -/
theorem of_ends {u : Token} (hrow : Row line (t :: (ts ++ [u])))
    (hspan : n.span = ⟨t.span.start, u.span.stop⟩)
    (hstand : ∀ k ∈ n.children, k.StandsOn (ts ++ [u]))
    (hordered : n.children.Pairwise fun j k => j.span.stop.column ≤ k.span.start.column) :
    n.StandsOn (t :: (ts ++ [u])) where
  start := ⟨t, List.mem_cons_self, by rw [hspan]⟩
  stop := ⟨u, by simp, by rw [hspan]⟩
  forward := by
    rw [hspan]
    exact Int.lt_of_le_of_lt (hrow.start_le List.mem_concat_self) (hrow.forward u (by simp))
  within k hk := by
    rw [hspan]
    exact ⟨(hstand k hk).start_le hrow, (hstand k hk).le_stop hrow.tail⟩
  ordered := hordered

/-- A node from the first to the last token, whose only child stands behind the first one. -/
theorem of_spanOf {head : List Token} (hhead : head ≠ []) (hrow : Row line (head ++ ts))
    (hk : k.StandsOn ts) (hspan : n.span = spanOf (head ++ ts)) (hchild : n.children = [k]) :
    n.StandsOn (head ++ ts) := by
  obtain ⟨t, head, rfl⟩ := List.exists_cons_of_ne_nil hhead
  -- the child ends with one of its tokens, so that there is a last token
  obtain ⟨v, hv, -⟩ := hk.stop
  obtain ⟨init, u, rfl⟩ : ∃ init u, ts = init ++ [u] :=
    ⟨_, _, (List.dropLast_append_getLast (List.ne_nil_of_mem hv)).symm⟩
  have hall : t :: head ++ (init ++ [u]) = t :: ((head ++ init) ++ [u]) := by simp
  rw [hall] at hrow hspan ⊢
  have hlast : (t :: ((head ++ init) ++ [u])).getLast? = some u := by
    rw [← List.cons_append, List.getLast?_concat]
  refine of_ends hrow ?_ ?_ (by simp [hchild])
  · rw [hspan, spanOf, hlast, List.head?_cons]
  · rw [hchild]
    simpa using hk.mono (List.subset_append_right head _)

end Node.StandsOn

mutual

/-- **What has been read from tokens in a row stands on them.** -/
theorem ReadFrom.standsOn {line : Int} : ∀ {ts : List Token} {n : Node}, ReadFrom ts n →
    Row line ts → n.StandsOn ts
  | _, _, .number .., hrow | _, _, .reference .., hrow => .of_token hrow rfl rfl
  | _, _, .sign _ h, hrow => .of_child hrow (h.standsOn hrow.tail) rfl rfl
  | _, _, .operation op hl hr, hrow =>
    .of_operands op hrow (hl.standsOn hrow.left)
      ((hr.standsOn hrow.right.tail).mono (List.subset_cons_self _ _))
  | _, _, @ReadFrom.call t opening closing ts _ _ h, hrow => by
    -- the arguments stand between the parentheses, the call ends with the closing one
    obtain ⟨hstand, hordered⟩ := h.standsOn hrow.tail.tail.left
    have hall : Row line (t :: ((opening :: ts) ++ [closing])) := hrow
    refine .of_ends hall rfl (fun k hk => (hstand k hk).mono ?_) hordered
    exact (List.infix_append' [opening] ts [closing]).subset
  | _, _, @ReadFrom.parens opening closing ts _ h, hrow =>
    (h.standsOn hrow.tail.left).mono (List.infix_append' [opening] ts [closing]).subset
  | _, _, .assignment _ hhead h, hrow | _, _, .definition _ _ hhead h, hrow =>
    .of_spanOf hhead hrow (h.standsOn hrow.right) rfl rfl

/-- **So do several nodes, one behind the other.** -/
theorem ReadFromAll.standsOn {line : Int} : ∀ {ts : List Token} {ns : List Node},
    ReadFromAll ts ns → Row line ts → (∀ n ∈ ns, n.StandsOn ts) ∧
      ns.Pairwise fun j k => j.span.stop.column ≤ k.span.start.column
  | _, _, .none, _ => ⟨by simp, .nil⟩
  | _, _, .one h, hrow => ⟨by simpa using h.standsOn hrow, List.pairwise_singleton _ _⟩
  | _, _, @ReadFromAll.more t _ us _ ns h hs, hrow => by
    have hfirst := h.standsOn hrow.left
    obtain ⟨hstand, hordered⟩ := hs.standsOn hrow.right.tail
    have hothers : ∀ m ∈ ns, m.StandsOn (t :: us) := fun m hm =>
      (hstand m hm).mono (List.subset_cons_self t us)
    refine ⟨List.forall_mem_cons.2 ⟨hfirst.mono (List.subset_append_left _ _), fun m hm => ?_⟩,
      .cons (fun m hm => hfirst.stop_le_start (hothers m hm) hrow) hordered⟩
    exact (hothers m hm).mono (List.subset_append_right _ _)

end

/-! ### A whole line -/

/-- The scan of the statement on a line, with places in the whole line. -/
def lineScan (raw : String) (line : Int) : Scan := scan (Text.trim raw) line (indentation raw + 1)

/-- A line consists of the blanks at its start, the text that is scanned, and what is behind it. -/
theorem exists_trim (raw : String) : ∃ after,
    raw.toList = raw.toList.takeWhile Text.isBlank ++ ((Text.trim raw).toList ++ after) := by
  obtain ⟨after, hafter⟩ := List.rdropWhile_prefix Text.isBlank (Text.trimStart raw.toList)
  refine ⟨after, ?_⟩
  rw [Text.trim, String.toList_ofList]
  show _ = _ ++ (List.rdropWhile _ _ ++ after)
  rw [hafter]
  exact List.takeWhile_append_dropWhile.symm

/-- **A token of a line is what stands between its columns.** -/
theorem slice_of_mem_tokens {raw : String} {line : Int}
    (h : (lineScan raw line).unexpected = none) {t : Token} (ht : t ∈ (lineScan raw line).tokens) :
    1 ≤ t.span.start.column ∧ t.span.stop.column ≤ raw.length + 1 ∧
      slice raw.toList (t.span.start.column - 1) (t.span.stop.column - 1) = t.text.toList := by
  obtain ⟨before, chars, rest, htrim, -, htext, hspan⟩ := (laid_scan h).place t ht
  obtain ⟨after, hraw⟩ := exists_trim raw
  rw [htrim] at hraw
  -- what is before the token in the line
  let blanks := raw.toList.takeWhile Text.isBlank
  have hline : raw.toList = (blanks ++ before) ++ (chars ++ (rest ++ after)) := by
    rw [hraw]
    simp [blanks]
  have hlength : indentation raw + before.length = (blanks ++ before).length := by
    rw [List.length_append]
    rfl
  have hstart : t.span.start.column = (blanks ++ before).length + 1 := by
    rw [hspan, ← hlength]
    simp only [Location.advance]
    omega
  have hstop : t.span.stop.column = ((blanks ++ before).length + chars.length : Nat) + 1 := by
    rw [hspan, ← hlength]
    simp only [Location.advance]
    omega
  have hbound : (blanks ++ before).length + chars.length ≤ raw.length := by
    rw [← String.length_toList, hline]
    simp only [List.length_append]
    omega
  rw [hstart, hstop, htext, hline, Int.add_sub_cancel, Int.add_sub_cancel, slice_middle]
  exact ⟨by omega, by omega, rfl⟩

/-- A line is a comment if there are only blanks before a `#`. -/
theorem commentOn?_eq_some_iff {raw : String} {line : Int} {n : Node} :
    commentOn? raw line = some n ↔ ∃ before after, raw.toList = before ++ '#' :: after ∧
      (∀ c ∈ before, Text.isBlank c = true) ∧
      n = .comment (Text.trim (String.ofList after))
        ⟨⟨line, before.length + 1, before.length⟩, ⟨line, raw.length + 1, raw.length⟩⟩ := by
  unfold commentOn? Text.trimStart
  constructor
  · intro h
    split at h
    · rename_i after hafter
      cases h
      refine ⟨raw.toList.takeWhile Text.isBlank, after, ?_,
        fun c hc => List.mem_takeWhile_imp hc, rfl⟩
      rw [← hafter, List.takeWhile_append_dropWhile]
    · cases h
  · rintro ⟨before, after, hraw, hblank, rfl⟩
    have hsign : ¬Text.isBlank '#' = true := by decide
    have htake : raw.toList.takeWhile Text.isBlank = before := by
      rw [hraw, List.takeWhile_append_of_pos hblank, List.takeWhile_cons_of_neg hsign,
        List.append_nil]
    have hdrop : raw.toList.dropWhile Text.isBlank = '#' :: after := by
      rw [hraw, List.dropWhile_append_of_pos hblank, List.dropWhile_cons_of_neg hsign]
    rw [hdrop, indentation, htake]
    rfl

/-- What is read from tokens is no comment. -/
theorem ReadFrom.isComment_eq : ∀ {ts : List Token} {n : Node}, ReadFrom ts n → n.isComment = false
  | _, _, .number .. | _, _, .reference .. | _, _, .sign .. | _, _, .operation ..
  | _, _, .call .. | _, _, .assignment .. | _, _, .definition .. => rfl
  | _, _, .parens h => h.isComment_eq

/-- A line that is read is a comment, or its node is read from all tokens of its text. -/
theorem parseLine_cases {raw : String} {line : Int} {n : Node} (h : parseLine raw line = .ok n) :
    commentOn? raw line = some n ∨
      (lineScan raw line).unexpected = none ∧ ReadFrom (lineScan raw line).tokens n := by
  unfold parseLine at h
  split at h
  · rename_i comment hcomment
    cases h
    exact .inl hcomment
  · obtain ⟨hscan, hn⟩ := parseText_eq_ok_iff.1 h
    exact .inr ⟨hscan, readFrom_of_parseStatement hn⟩

/-- **The nodes of a line point into the line and nest.** If a line is read as a statement, then each
token of the line is what stands between its columns, each node of the tree is on the line, starts with
a token, ends with a token and starts before it ends, and the children of a node lie within it, one
behind the other.

A line is read as a comment exactly if there are only blanks before a `#`; then the span of the
comment goes from there to the end of the line. -/
theorem parseLine_positions (raw : String) (line : Int) :
    (∀ n, parseLine raw line = .ok n → n.isComment = false →
      let tokens := (lineScan raw line).tokens
      (∀ t ∈ tokens, 1 ≤ t.span.start.column ∧ t.span.stop.column ≤ raw.length + 1 ∧
        slice raw.toList (t.span.start.column - 1) (t.span.stop.column - 1) = t.text.toList) ∧
      ∀ m ∈ n.parts, m.span.start.line = line ∧ m.span.stop.line = line ∧ m.StandsOn tokens) ∧
    ∀ n, parseLine raw line = .ok n ∧ n.isComment = true ↔
      ∃ before after, raw.toList = before ++ '#' :: after ∧ (∀ c ∈ before, Text.isBlank c = true) ∧
        n = .comment (Text.trim (String.ofList after))
          ⟨⟨line, before.length + 1, before.length⟩, ⟨line, raw.length + 1, raw.length⟩⟩ := by
  refine ⟨fun n h hn => ?_, fun n => ?_⟩
  · rcases parseLine_cases h with hcomment | ⟨hscan, hread⟩
    · obtain ⟨_, _, -, -, rfl⟩ := commentOn?_eq_some_iff.1 hcomment
      cases hn
    · have hrow : Row line (lineScan raw line).tokens := (laid_scan hscan).row
      refine ⟨fun t ht => slice_of_mem_tokens hscan ht, fun m hm => ?_⟩
      obtain ⟨us, hus, hpart⟩ := hread.of_mem_parts hm
      have hstand : m.StandsOn (lineScan raw line).tokens :=
        (hpart.standsOn (hrow.of_sublist hus.sublist)).mono hus.subset
      obtain ⟨t, ht, hstart⟩ := hstand.start
      obtain ⟨u, hu, hstop⟩ := hstand.stop
      rw [hstart, hstop]
      exact ⟨(hrow.inLine t ht).1, (hrow.inLine u hu).2, hstand⟩
  · rw [← commentOn?_eq_some_iff]
    constructor
    · rintro ⟨h, hn⟩
      rcases parseLine_cases h with hcomment | ⟨-, hread⟩
      · exact hcomment
      · rw [hread.isComment_eq] at hn
        cases hn
    · intro h
      obtain ⟨_, _, -, -, rfl⟩ := commentOn?_eq_some_iff.1 h
      exact ⟨by rw [parseLine, h], rfl⟩

deriving instance DecidableEq for Token

/-- The tokens of `  (a) * f(b, -c) ` in line 3. -/
def productTokens : List Token :=
  [⟨.symbol .lparen, "(", ⟨⟨3, 3, 0⟩, ⟨3, 4, 1⟩⟩⟩, ⟨.name "a", "a", ⟨⟨3, 4, 1⟩, ⟨3, 5, 2⟩⟩⟩,
    ⟨.symbol .rparen, ")", ⟨⟨3, 5, 2⟩, ⟨3, 6, 3⟩⟩⟩, ⟨.symbol .star, "*", ⟨⟨3, 7, 4⟩, ⟨3, 8, 5⟩⟩⟩,
    ⟨.name "f", "f", ⟨⟨3, 9, 6⟩, ⟨3, 10, 7⟩⟩⟩, ⟨.symbol .lparen, "(", ⟨⟨3, 10, 7⟩, ⟨3, 11, 8⟩⟩⟩,
    ⟨.name "b", "b", ⟨⟨3, 11, 8⟩, ⟨3, 12, 9⟩⟩⟩, ⟨.symbol .comma, ",", ⟨⟨3, 12, 9⟩, ⟨3, 13, 10⟩⟩⟩,
    ⟨.symbol .minus, "-", ⟨⟨3, 14, 11⟩, ⟨3, 15, 12⟩⟩⟩, ⟨.name "c", "c", ⟨⟨3, 15, 12⟩, ⟨3, 16, 13⟩⟩⟩,
    ⟨.symbol .rparen, ")", ⟨⟨3, 16, 13⟩, ⟨3, 17, 14⟩⟩⟩]

/-- The parentheses around a factor are no part of the product, those of a call are part of it. -/
theorem parseLine_positions_of_product :
    let raw := "  (a) * f(b, -c) "
    ∃ n, parseLine raw 3 = .ok n ∧ n.isComment = false ∧
      n.parts.map (fun m => (m.span.start.column, m.span.stop.column)) =
        [(4, 17), (4, 5), (9, 17), (11, 12), (14, 16), (15, 16)] ∧
      ∀ m ∈ n.parts, m.StandsOn (lineScan raw 3).tokens := by
  intro raw
  have hscan : (lineScan raw 3).unexpected = none := by decide +kernel
  have htokens : (lineScan raw 3).tokens = productTokens := by decide +kernel
  obtain ⟨n, hread, hcomment, hspans⟩ : ∃ n, parseStatement nestingRoom productTokens = .ok n ∧
      n.isComment = false ∧ n.parts.map (fun m => (m.span.start.column, m.span.stop.column)) =
        [(4, 17), (4, 5), (9, 17), (11, 12), (14, 16), (15, 16)] :=
    ⟨_, by cbv, rfl, rfl⟩
  have hn : parseLine raw 3 = .ok n := by
    have hnone : (commentOn? raw 3).isNone = true := by decide +kernel
    rw [← htokens] at hread
    unfold parseLine
    rw [Option.isNone_iff_eq_none.mp hnone]
    exact parseText_eq_ok_iff.2 ⟨hscan, hread⟩
  have hstand := ((parseLine_positions raw 3).1 n hn hcomment).2
  exact ⟨n, hn, hcomment, hspans, fun m hm => (hstand m hm).2.2⟩

end Reckon
