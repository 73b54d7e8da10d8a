import Reckon.Node.Dump
import Reckon.Proofs.Node
import Reckon.Proofs.Text.Quoted

/-!
# A dump determines its tree

Two trees have the same dump exactly if they are equal up to their spans (`dump_eq_iff`).

A dump has no line feeds but those between its lines, so it determines its lines. The lines of a node
tell where they end, whatever stands behind them, and which node it is (`Determined`): the first line
names the form, the form says which fields follow, and each field ends with its line, with the last
line of its node, or with the bracket that closes a list of nodes. This passes from the children of a
node to the node (`Known.determined_of_children`), and so it holds of every tree.
-/

namespace Reckon.Node

open Text

/-! ### Names and units -/

@[simp] theorem showUnit_inj {u v : Option String} : showUnit u = showUnit v ↔ u = v := by
  have hnone : ∀ s, "None" ≠ quote s := fun s => by
    simpa using ne_quote_append (show "None".toList.head? = some 'N' by decide) (by decide) s ""
  cases u with
  | none =>
    cases v with
    | none => simp
    | some v => simpa [showUnit] using hnone v
  | some u =>
    cases v with
    | none => simpa [showUnit] using (hnone u).symm
    | some v => simp [showUnit]

/-- The names behind the first of several, up to the closing parenthesis. -/
def showMore : List String → String
  | [] => ")"
  | name :: names => ", " ++ (quote name ++ showMore names)

/-- What stands behind the first name: a comma if it is the only one. -/
def showBehind : List String → String
  | [] => ",)"
  | name :: names => showMore (name :: names)

theorem intercalate_eq_showMore (name : String) (names : List String) :
    ", ".intercalate ((name :: names).map quote) ++ ")" = quote name ++ showMore names := by
  induction names generalizing name with
  | nil => simp [showMore]
  | cons next names ih =>
    have hnext := ih next
    rw [List.map_cons] at hnext
    rw [List.map_cons, List.map_cons, String.intercalate_cons_cons, String.append_assoc, hnext,
      showMore, String.append_assoc]

theorem showNames_cons (name : String) (names : List String) :
    showNames (name :: names) = "(" ++ (quote name ++ showBehind names) := by
  cases names with
  | nil => simp [showNames, showBehind, toString, String.append_assoc]
  | cons next names =>
    rw [showBehind, ← intercalate_eq_showMore, ← String.append_assoc]
    rfl

theorem showMore_inj {names names' : List String} :
    showMore names = showMore names' ↔ names = names' := by
  have hclose : ∀ s : String, ")" ≠ ", " ++ s := fun s h => by
    simpa using congrArg String.toList h
  induction names generalizing names' with
  | nil =>
    cases names' with
    | nil => simp
    | cons => simpa [showMore] using hclose _
  | cons name names ih =>
    cases names' with
    | nil => simpa [showMore] using (hclose _).symm
    | cons => simp [showMore, ih]

theorem showBehind_inj {names names' : List String} :
    showBehind names = showBehind names' ↔ names = names' := by
  have hsingle : ∀ name names, ",)" ≠ showMore (name :: names) := fun name names h => by
    simpa [showMore] using congrArg String.toList h
  cases names with
  | nil =>
    cases names' with
    | nil => simp
    | cons => simpa [showBehind] using hsingle _ _
  | cons =>
    cases names' with
    | nil => simpa [showBehind] using (hsingle _ _).symm
    | cons => simp [showBehind, showMore_inj]

@[simp] theorem showNames_inj {names names' : List String} :
    showNames names = showNames names' ↔ names = names' := by
  have hempty : ∀ name names, showNames [] ≠ showNames (name :: names) := by
    intro name names h
    rw [showNames_cons] at h
    exact ne_quote_append (show ")".toList.head? = some ')' by decide) (by decide) name
      (showBehind names) ((String.append_right_inj "(").mp h)
  cases names with
  | nil =>
    cases names' with
    | nil => simp
    | cons => simpa using hempty _ _
  | cons =>
    cases names' with
    | nil => simpa using (hempty _ _).symm
    | cons => simp [showNames_cons, showBehind_inj]

/-! ### Trees up to their spans -/

mutual

/-- Two trees are equal up to their spans, with numbers compared as they are written. -/
inductive Equals : Node → Node → Prop where
  | number {x y : Float} {unit : Option String} {span span' : Span}
      (hvalue : Decimal.write x = Decimal.write y) :
      Equals (.number x unit span) (.number y unit span')
  | reference {name : String} {span span' : Span} :
      Equals (.reference name span) (.reference name span')
  | unary {operator : String} {operand operand' : Node} {span span' : Span} :
      Equals operand operand' →
      Equals (.unary operator operand span) (.unary operator operand' span')
  | binary {left left' right right' : Node} {operator : String} {span span' : Span} :
      Equals left left' → Equals right right' →
      Equals (.binary left operator right span) (.binary left' operator right' span')
  | call {name : String} {arguments arguments' : List Node} {span span' : Span} :
      EqualsAll arguments arguments' →
      Equals (.call name arguments span) (.call name arguments' span')
  | comment {text : String} {span span' : Span} :
      Equals (.comment text span) (.comment text span')
  | assignment {name : String} {value value' : Node} {span span' : Span} :
      Equals value value' →
      Equals (.assignment name value span) (.assignment name value' span')
  | definition {name : String} {parameters : List String} {body body' : Node}
      {span span' : Span} : Equals body body' →
      Equals (.definition name parameters body span) (.definition name parameters body' span')

/-- Two lists of trees are equal in this sense, one by one. -/
inductive EqualsAll : List Node → List Node → Prop where
  | nil : EqualsAll [] []
  | cons {n m : Node} {ns ms : List Node} : Equals n m → EqualsAll ns ms →
      EqualsAll (n :: ns) (m :: ms)

end

/-- The tree has only nodes of the eight known forms. -/
def Known (n : Node) : Prop := ∀ form, .unknown form ∉ n.parts

theorem Known.child {n k : Node} (h : n.Known) (hk : k ∈ n.children) : k.Known :=
  fun form hform => h form (mem_parts_iff.mpr (.inr ⟨k, hk, hform⟩))

theorem not_known_unknown (form : String) : ¬ Known (.unknown form) :=
  fun h => h form (by simp [parts])

/-! ### Lines -/

variable {n m : Node} {k : Nat} {rest rest' : List String}

@[simp] theorem toString_text (s : String) : toString s = s := rfl

@[simp] theorem indented_inj {s t : String} : indented k s = indented k t ↔ s = t :=
  String.append_right_inj _

/-- A line that closes a list is none of the lines of its items. -/
theorem indented_close_ne (k : Nat) (s : String) : indented k "  ]" ≠ indented (k + 2) s := by
  have hdeeper : indented (k + 2) s = indented k ("    " ++ s) := by
    rw [indented, indented, ← String.append_assoc, Nat.mul_add,
      ← List.replicate_append_replicate, String.ofList_append]
    rfl
  rw [hdeeper, ne_eq, indented_inj]
  intro h
  simpa using congrArg String.toList h

/-- The lines of a call that has arguments. -/
theorem dumpLines_call {name : String} {arguments : List Node} {span : Span}
    (h : arguments ≠ []) (k : Nat) :
    (call name arguments span).dumpLines k =
      [indented k "FunctionCall", indented k s!"  name: {quote name}",
        indented k "  arguments: ["] ++ dumpAll (k + 2) arguments ++ [indented k "  ]"] := by
  cases arguments with
  | nil => exact absurd rfl h
  | cons n ns => simp [dumpLines, dumpAll]

/-- The first line of a node names its form. -/
theorem exists_dumpLines (n : Node) (k : Nat) :
    ∃ ls, n.dumpLines k = indented k n.form :: ls := by
  cases n with
  | call name arguments span => cases arguments <;> simp [dumpLines, form]
  | _ => simp [dumpLines, form]

/-- Two nodes of the same known form. -/
inductive SameForm : Node → Node → Prop where
  | number (x y unit unit' span span') : SameForm (.number x unit span) (.number y unit' span')
  | reference (name name' span span') :
      SameForm (.reference name span) (.reference name' span')
  | unary (operator operator' operand operand' span span') :
      SameForm (.unary operator operand span) (.unary operator' operand' span')
  | binary (left left' operator operator' right right' span span') :
      SameForm (.binary left operator right span) (.binary left' operator' right' span')
  | call (name name' arguments arguments' span span') :
      SameForm (.call name arguments span) (.call name' arguments' span')
  | comment (text text' span span') : SameForm (.comment text span) (.comment text' span')
  | assignment (name name' value value' span span') :
      SameForm (.assignment name value span) (.assignment name' value' span')
  | definition (name name' parameters parameters' body body' span span') :
      SameForm (.definition name parameters body span)
        (.definition name' parameters' body' span')

theorem Known.sameForm (hn : n.Known) (hm : m.Known) (h : n.form = m.form) : SameForm n m := by
  cases n with
  | unknown form => exact absurd hn (not_known_unknown form)
  | _ =>
    cases m with
    | unknown form => exact absurd hm (not_known_unknown form)
    | _ => first | constructor | simp [form] at h

/-- The lines of two nodes begin alike only if the nodes have the same form. -/
theorem Known.sameForm_of_append (hn : n.Known) (hm : m.Known)
    (h : n.dumpLines k ++ rest = m.dumpLines k ++ rest') : SameForm n m := by
  obtain ⟨ls, hls⟩ := exists_dumpLines n k
  obtain ⟨ls', hls'⟩ := exists_dumpLines m k
  rw [hls, hls'] at h
  exact hn.sameForm hm (indented_inj.mp (List.cons.inj h).1)

/-! ### Lines determine nodes -/

/-- The lines of the node tell where they end and, up to spans, which node it is. -/
def Determined (n : Node) : Prop :=
  ∀ {m : Node} {k : Nat} {rest rest' : List String}, m.Known →
    n.dumpLines k ++ rest = m.dumpLines k ++ rest' → n.Equals m ∧ rest = rest'

/-- The lines of the items of a list determine them if each of the items is determined. -/
theorem equalsAll_of_append {ns ms : List Node} (hns : ∀ n ∈ ns, n.Determined)
    (hms : ∀ m ∈ ms, m.Known)
    (h : dumpAll (k + 2) ns ++ indented k "  ]" :: rest =
      dumpAll (k + 2) ms ++ indented k "  ]" :: rest') :
    EqualsAll ns ms ∧ rest = rest' := by
  induction ns generalizing ms with
  | nil =>
    cases ms with
    | nil => exact ⟨.nil, (List.cons.inj h).2⟩
    | cons m ms =>
      -- one list ends here, and a bracket is no first line of a node
      obtain ⟨ls, hls⟩ := exists_dumpLines m (k + 2)
      rw [dumpAll, dumpAll, hls] at h
      exact absurd (List.cons.inj h).1 (indented_close_ne k m.form)
  | cons n ns ih =>
    cases ms with
    | nil =>
      obtain ⟨ls, hls⟩ := exists_dumpLines n (k + 2)
      rw [dumpAll, dumpAll, hls] at h
      exact absurd (List.cons.inj h).1.symm (indented_close_ne k n.form)
    | cons m ms =>
      rw [List.forall_mem_cons] at hns hms
      rw [dumpAll, dumpAll, List.append_assoc, List.append_assoc] at h
      obtain ⟨hn, hbehind⟩ := hns.1 hms.1 h
      obtain ⟨hall, hrest⟩ := ih hns.2 hms.2 hbehind
      exact ⟨.cons hn hall, hrest⟩

/-- The lines of a call determine it if its arguments are determined. -/
theorem equals_call_of_append {name name' : String} {arguments arguments' : List Node}
    {span span' : Span} (hdetermined : ∀ n ∈ arguments, n.Determined)
    (hknown : ∀ m ∈ arguments', m.Known)
    (h : (call name arguments span).dumpLines k ++ rest =
      (call name' arguments' span').dumpLines k ++ rest') :
    (call name arguments span).Equals (call name' arguments' span') ∧ rest = rest' := by
  cases arguments with
  | nil =>
    cases arguments' with
    | nil =>
      obtain ⟨rfl, hrest⟩ : name = name' ∧ rest = rest' := by simpa [dumpLines] using h
      exact ⟨.call .nil, hrest⟩
    | cons => simp [dumpLines] at h
  | cons n ns =>
    cases arguments' with
    | nil => simp [dumpLines] at h
    | cons m ms =>
      rw [dumpLines_call (List.cons_ne_nil n ns), dumpLines_call (List.cons_ne_nil m ms)] at h
      obtain ⟨rfl, hbelow⟩ : name = name' ∧
          dumpAll (k + 2) (n :: ns) ++ indented k "  ]" :: rest =
            dumpAll (k + 2) (m :: ms) ++ indented k "  ]" :: rest' := by
        simpa using h
      obtain ⟨hall, hrest⟩ := equalsAll_of_append hdetermined hknown hbelow
      exact ⟨.call hall, hrest⟩

/-- **A node is determined if its children are.** -/
theorem Known.determined_of_children (hn : n.Known)
    (hchildren : ∀ c ∈ n.children, c.Determined) : n.Determined := by
  intro m k rest rest' hm h
  cases hn.sameForm_of_append hm h with
  | number x y unit unit' =>
    obtain ⟨hvalue, rfl, hrest⟩ :
        Decimal.write x = Decimal.write y ∧ unit = unit' ∧ rest = rest' := by
      simpa [dumpLines] using h
    exact ⟨.number hvalue, hrest⟩
  | reference name name' =>
    obtain ⟨rfl, hrest⟩ : name = name' ∧ rest = rest' := by simpa [dumpLines] using h
    exact ⟨.reference, hrest⟩
  | unary operator operator' operand operand' =>
    obtain ⟨rfl, hbelow⟩ : operator = operator' ∧
        operand.dumpLines (k + 2) ++ rest = operand'.dumpLines (k + 2) ++ rest' := by
      simpa [dumpLines] using h
    have hknown : operand'.Known := hm.child (by simp [children])
    obtain ⟨hoperand, hrest⟩ := hchildren operand (by simp [children]) hknown hbelow
    exact ⟨.unary hoperand, hrest⟩
  | binary left left' operator operator' right right' =>
    have hbelow : left.dumpLines (k + 2) ++ (indented k ("  operator: " ++ quote operator) ::
          indented k "  right:" :: (right.dumpLines (k + 2) ++ rest)) =
        left'.dumpLines (k + 2) ++ (indented k ("  operator: " ++ quote operator') ::
          indented k "  right:" :: (right'.dumpLines (k + 2) ++ rest')) := by
      simpa [dumpLines] using h
    have hknownLeft : left'.Known := hm.child (by simp [children])
    have hknownRight : right'.Known := hm.child (by simp [children])
    -- the left operand ends by itself, which shows where the operator stands
    obtain ⟨hleft, hafter⟩ := hchildren left (by simp [children]) hknownLeft hbelow
    obtain ⟨rfl, hbehind⟩ : operator = operator' ∧
        right.dumpLines (k + 2) ++ rest = right'.dumpLines (k + 2) ++ rest' := by
      simpa using hafter
    obtain ⟨hright, hrest⟩ := hchildren right (by simp [children]) hknownRight hbehind
    exact ⟨.binary hleft hright, hrest⟩
  | call name name' arguments arguments' =>
    exact equals_call_of_append hchildren (fun c hc => hm.child hc) h
  | comment text text' =>
    obtain ⟨rfl, hrest⟩ : text = text' ∧ rest = rest' := by simpa [dumpLines] using h
    exact ⟨.comment, hrest⟩
  | assignment name name' value value' =>
    obtain ⟨rfl, hbelow⟩ : name = name' ∧
        value.dumpLines (k + 2) ++ rest = value'.dumpLines (k + 2) ++ rest' := by
      simpa [dumpLines] using h
    have hknown : value'.Known := hm.child (by simp [children])
    obtain ⟨hvalue, hrest⟩ := hchildren value (by simp [children]) hknown hbelow
    exact ⟨.assignment hvalue, hrest⟩
  | definition name name' parameters parameters' body body' =>
    obtain ⟨rfl, rfl, hbelow⟩ : name = name' ∧ parameters = parameters' ∧
        body.dumpLines (k + 2) ++ rest = body'.dumpLines (k + 2) ++ rest' := by
      simpa [dumpLines] using h
    have hknown : body'.Known := hm.child (by simp [children])
    obtain ⟨hbody, hrest⟩ := hchildren body (by simp [children]) hknown hbelow
    exact ⟨.definition hbody, hrest⟩

theorem Known.determined (hn : n.Known) : n.Determined := by
  induction n using induction_children with
  | h n ih => exact hn.determined_of_children fun c hc => ih c hc (hn.child hc)

mutual

/-- Trees that are equal up to their spans have the same lines. -/
theorem Equals.dumpLines_eq {n m : Node} (h : n.Equals m) (k : Nat) :
    n.dumpLines k = m.dumpLines k := by
  cases h with
  | number hvalue => simp only [dumpLines, hvalue]
  | reference | comment => simp only [dumpLines]
  | unary h | assignment h | definition h => simp only [dumpLines, h.dumpLines_eq (k + 2)]
  | binary hleft hright =>
    simp only [dumpLines, hleft.dumpLines_eq (k + 2), hright.dumpLines_eq (k + 2)]
  | call h =>
    cases h with
    | nil => simp only [dumpLines]
    | cons h hs => simp only [dumpLines, h.dumpLines_eq (k + 2), hs.dumpAll_eq (k + 2)]

theorem EqualsAll.dumpAll_eq {ns ms : List Node} (h : EqualsAll ns ms) (k : Nat) :
    dumpAll k ns = dumpAll k ms := by
  cases h with
  | nil => rfl
  | cons h hs => rw [dumpAll, dumpAll, h.dumpLines_eq, hs.dumpAll_eq]

end

/-! ### Rows -/

@[simp] theorem isRow_indented {s : String} : IsRow (indented k s) ↔ IsRow s := by
  simp [indented, List.mem_replicate]

@[simp] theorem isRow_showUnit (u : Option String) : IsRow (showUnit u) := by
  cases u with
  | none => decide
  | some u => exact isRow_quote u

theorem isRow_showMore (names : List String) : IsRow (showMore names) := by
  induction names with
  | nil => decide
  | cons name names ih =>
    simp only [showMore, isRow_append]
    exact ⟨by decide, isRow_quote name, ih⟩

@[simp] theorem isRow_showNames (names : List String) : IsRow (showNames names) := by
  cases names with
  | nil => decide
  | cons name names =>
    have hbehind : IsRow (showBehind names) := by
      cases names with
      | nil => decide
      | cons next names => exact isRow_showMore (next :: names)
    simp only [showNames_cons, isRow_append]
    exact ⟨by decide, isRow_quote name, hbehind⟩

theorem notMem_exponentText (l : Decimal.Layout) (e : Int) : '\n' ∉ l.exponentText e := by
  have hdigits := notMem_toDigits (b := 10) (by decide) e.natAbs
  unfold Decimal.Layout.exponentText
  split <;> simp [hdigits, List.mem_replicate]

theorem notMem_text (d : Decimal.Scientific) : '\n' ∉ Decimal.plain.text d := by
  have hdigits := notMem_toDigits (b := 10) (by decide) d.digits
  have hfront : ∀ i, '\n' ∉ (Nat.toDigits 10 d.digits).take i :=
    fun _ h => hdigits (List.mem_of_mem_take h)
  have hback : ∀ i, '\n' ∉ (Nat.toDigits 10 d.digits).drop i :=
    fun _ h => hdigits (List.mem_of_mem_drop h)
  unfold Decimal.Layout.text
  simp only
  split
  · split
    · simp [hdigits, List.mem_replicate]
    · split
      · simp [hdigits, List.mem_replicate, Decimal.plain]
      · simp [hfront, hback]
  · split
    · exact List.not_mem_nil
    · rename_i first rest hcons
      rw [hcons, List.mem_cons, not_or] at hdigits
      have hexponent := notMem_exponentText Decimal.plain
      split <;> simp [hdigits, hexponent]

@[simp] theorem isRow_write (x : Float) : IsRow (Decimal.write x) := by
  unfold Decimal.write Decimal.Layout.write
  simp only
  split
  · decide
  split
  · split <;> decide
  split
  · split <;> decide
  · have htext := notMem_text (Decimal.shortest (Decimal.decode x))
    split <;> simp +decide [htext]

theorem mem_dumpAll {l : String} {ns : List Node} :
    l ∈ dumpAll k ns ↔ ∃ n ∈ ns, l ∈ n.dumpLines k := by
  induction ns with
  | nil => simp [dumpAll]
  | cons n ns ih => simp [dumpAll, ih]

/-- **No line of a dump has a line feed.** -/
theorem Known.isRow_dumpLines (hn : n.Known) (k : Nat) : ∀ l ∈ n.dumpLines k, IsRow l := by
  induction n using induction_children generalizing k with
  | h n ih =>
    have hchildren : ∀ c ∈ n.children, ∀ l ∈ c.dumpLines (k + 2), IsRow l :=
      fun c hc => ih c hc (hn.child hc) (k + 2)
    cases n with
    | unknown form => exact absurd hn (not_known_unknown form)
    | number | reference | comment => simp +decide [dumpLines]
    | unary _ operand =>
      have hoperand := hchildren operand (by simp [children])
      simpa +decide [dumpLines] using hoperand
    | assignment _ value =>
      have hvalue := hchildren value (by simp [children])
      simpa +decide [dumpLines] using hvalue
    | definition _ _ body =>
      have hbody := hchildren body (by simp [children])
      simpa +decide [dumpLines] using hbody
    | binary left _ right =>
      have hleft := hchildren left (by simp [children])
      have hright := hchildren right (by simp [children])
      simpa +decide [dumpLines, or_imp, forall_and] using And.intro hleft hright
    | call name arguments span =>
      cases arguments with
      | nil => simp +decide [dumpLines]
      | cons n ns =>
        have hall : ∀ l ∈ dumpAll (k + 2) (n :: ns), IsRow l := by
          intro l hl
          obtain ⟨c, hc, hmem⟩ := mem_dumpAll.mp hl
          exact hchildren c hc l hmem
        rw [dumpLines_call (List.cons_ne_nil n ns)]
        simpa +decide [or_imp, forall_and] using hall

/-- The lines of a dump are its rows. -/
theorem Known.rows_dump (hn : n.Known) : rows n.dump = (n.dumpLines 0).map String.toList := by
  obtain ⟨ls, hls⟩ := exists_dumpLines n 0
  exact rows_intercalate (hls ▸ List.cons_ne_nil _ ls) (hn.isRow_dumpLines 0)

/-- **The dump of a tree determines the tree.** Two trees of known nodes have the same dump exactly if
they are equal up to their spans, with numbers compared as they are written: no name, operator, unit or
remark and no nesting of nodes makes the dump of one tree look like that of another. -/
theorem dump_eq_iff (hn : n.Known) (hm : m.Known) : n.dump = m.dump ↔ n.Equals m := by
  constructor
  · intro h
    have hlines : n.dumpLines 0 = m.dumpLines 0 := by
      have hrows := congrArg rows h
      rw [hn.rows_dump, hm.rows_dump] at hrows
      exact (List.map_inj_right fun _ _ => String.toList_inj.mp).mp hrows
    have hempty : n.dumpLines 0 ++ [] = m.dumpLines 0 ++ [] := by rw [hlines]
    exact (hn.determined hm hempty).1
  · intro h
    rw [dump, dump, h.dumpLines_eq 0]

/-- The dump of `f(g(x, y))` is not that of `f(g(x), y)`, and it is that of the same tree without
spans. -/
theorem dump_eq_iff_of_nested_calls :
    let x := reference "x" ⟨⟨1, 5, 4⟩, ⟨1, 6, 5⟩⟩
    let y := reference "y" ⟨⟨1, 8, 7⟩, ⟨1, 9, 8⟩⟩
    let n := call "f" [call "g" [x, y] ⟨⟨1, 3, 2⟩, ⟨1, 10, 9⟩⟩] ⟨⟨1, 1, 0⟩, ⟨1, 11, 10⟩⟩
    let m := call "f" [call "g" [x] ⟨⟨1, 3, 2⟩, ⟨1, 7, 6⟩⟩, y] ⟨⟨1, 1, 0⟩, ⟨1, 11, 10⟩⟩
    n.Known ∧ m.Known ∧ n.bare.Known ∧ n.dump ≠ m.dump ∧ n.dump = n.bare.dump := by
  intro x y n m
  have hn : n.Known := fun form => by simp [n, x, y, parts, partsAll]
  have hm : m.Known := fun form => by simp [m, x, y, parts, partsAll]
  have hbare : n.bare.Known := fun form => by simp [n, x, y, bare, bareAll, parts, partsAll]
  refine ⟨hn, hm, hbare, fun h => ?_, (dump_eq_iff hn hbare).mpr ?_⟩
  · have hequals : Equals (call "f" [call "g" [x, y] _] _) (call "f" [call "g" [x] _, y] _) :=
      (dump_eq_iff hn hm).mp h
    cases hequals with
    | call harguments =>
      -- the outer calls differ in the number of their arguments
      cases harguments with
      | cons _ hrest => cases hrest
  · simp only [n, x, y, bare, bareAll]
    exact .call (.cons (.call (.cons .reference (.cons .reference .nil))) .nil)

end Reckon.Node
