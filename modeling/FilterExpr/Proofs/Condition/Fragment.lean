import FilterExpr.Proofs.Condition.Canonical

/-!
# FilterExpr.Proofs.Condition.Fragment

Reading `WHERE` fragments. `Fragment` holds the derivations of the grammar

    fragment = "NOT(" fragment ")"
             | "(" fragment ") AND (" fragment ")"
             | "(" fragment ") OR (" fragment ")"
             | column " " operator " " constant
    column   = letter (letter | "_")*
    operator = "=" | "!=" | ">" | ">=" | "<" | "<=" | "LIKE" | "IN"
    constant = digits | [digits] "." digits | quoted

where in a quoted constant a backslash takes the next character, and a quote that is not taken closes.

`Fragment.eq_of_text_append`: a text has one derivation at most, whatever is quoted in it.
-/

namespace FilterExpr

open Text

/-! ## The grammar -/

structure Column where
  name : String
  isName_name : isName name.toList = true
  deriving DecidableEq

inductive Operator where
  | comparison (op : Comparison)
  | search (op : Search)
  deriving DecidableEq

def Operator.sql : Operator → String
  | .comparison op => op.sql
  | .search op => op.sql

/-- The name of the function that the operator stands for. -/
def Operator.name : Operator → String
  | .comparison op => op.name
  | .search op => op.name

/-- A step through a quoted constant: a character for itself, or one taken by a backslash. -/
inductive Quoted where
  | bare (c : Char) (plain : c ≠ '"' ∧ c ≠ '\\')
  | taken (c : Char)
  deriving DecidableEq

def Quoted.text : Quoted → List Char
  | .bare c _ => [c]
  | .taken c => ['\\', c]

/-- A bare percent sign is a wildcard. All else is text. -/
def Quoted.symbol : Quoted → Symbol
  | .bare c _ => if c = '%' then .wildcard else .char c
  | .taken c => .char c

inductive Constant where
  | integer (digits : String) (lexable : isInteger digits.toList = true)
  | decimal (digits : String) (lexable : isDecimal digits.toList = true)
  | quoted (chars : List Quoted)
  deriving DecidableEq

def Constant.text : Constant → List Char
  | .integer digits _ => digits.toList
  | .decimal digits _ => digits.toList
  | .quoted chars => '"' :: (chars.flatMap Quoted.text ++ ['"'])

def Constant.value : Constant → Value
  | .integer digits _ => .integer digits
  | .decimal digits _ => .decimal digits
  | .quoted chars => .string ⟨chars.map Quoted.symbol⟩

inductive Fragment where
  | not (f : Fragment)
  | join (j : Junction) (l r : Fragment)
  | leaf (column : Column) (op : Operator) (constant : Constant)
  deriving DecidableEq

namespace Fragment

/-- The text that is derived. -/
def text : Fragment → List Char
  | .not f => "NOT(".toList ++ f.text ++ ")".toList
  | .join j l r =>
    "(".toList ++ l.text ++ ") ".toList ++ j.name.toList ++ " (".toList ++ r.text ++ ")".toList
  | .leaf column op constant =>
    column.name.toList ++ " ".toList ++ op.sql.toList ++ " ".toList ++ constant.text

/-- The call tree that the derivation gives. -/
def toCall : Fragment → Call
  | .not f => ⟨Builtin.not.name, [.call f.toCall]⟩
  | .join j l r => ⟨j.name, [.call l.toCall, .call r.toCall]⟩
  | .leaf column op constant =>
    ⟨op.name, [.value (.identifier column.name), .value constant.value]⟩

end Fragment

/-! ## Words and constants end by themselves -/

/-- Two rows of characters of one class that come before other characters are the same row. -/
theorem append_cancel_of_stop {p : Char → Bool} {a b r s : List Char}
    (ha : ∀ c ∈ a, p c = true) (hb : ∀ c ∈ b, p c = true)
    (hr : ∀ c ∈ r.head?, p c = false) (hs : ∀ c ∈ s.head?, p c = false)
    (h : a ++ r = b ++ s) : a = b ∧ r = s := by
  have htake := congrArg (List.takeWhile p) h
  rw [List.takeWhile_append_of_pos ha, List.takeWhile_append_of_pos hb,
    (takeWhile_of_stop hr).1, (takeWhile_of_stop hs).1, List.append_nil, List.append_nil] at htake
  subst htake
  exact ⟨rfl, List.append_cancel_left h⟩

theorem word_cancel {a b : String} {r s : List Char} (ha : ' ' ∉ a.toList) (hb : ' ' ∉ b.toList)
    (h : a.toList ++ ' ' :: r = b.toList ++ ' ' :: s) : a = b ∧ r = s := by
  have hword : ∀ {w : List Char}, ' ' ∉ w → ∀ c ∈ w, (c != ' ') = true := by
    intro w hw c hc
    rw [bne_iff_ne]
    rintro rfl
    exact hw hc
  obtain ⟨hab, hrs⟩ := append_cancel_of_stop (hword ha) (hword hb) (by simp) (by simp) h
  exact ⟨String.toList_inj.mp hab, (List.cons.inj hrs).2⟩

theorem Column.isNameChar_of_mem (column : Column) :
    ∀ c ∈ column.name.toList, isNameChar c = true :=
  List.all_eq_true.mp (all_isNameChar_of_isName column.isName_name)

theorem Column.blank_notMem (column : Column) : ' ' ∉ column.name.toList := by
  intro h
  exact absurd (column.isNameChar_of_mem ' ' h) (by decide)

theorem Operator.blank_notMem (op : Operator) : ' ' ∉ op.sql.toList := by
  cases op with
  | comparison op => cases op <;> decide
  | search op => cases op <;> decide

theorem Operator.eq_of_sql_eq {a b : Operator} (h : a.sql = b.sql) : a = b := by
  cases a with
  | comparison op =>
    cases b with
    | comparison op' => cases op <;> cases op' <;> simp_all [Operator.sql, Comparison.sql]
    | search op' => cases op <;> cases op' <;> simp [Operator.sql, Comparison.sql, Search.sql] at h
  | search op =>
    cases b with
    | comparison op' =>
      cases op <;> cases op' <;> simp [Operator.sql, Comparison.sql, Search.sql] at h
    | search op' => cases op <;> cases op' <;> simp_all [Operator.sql, Search.sql]

theorem Junction.blank_notMem (j : Junction) : ' ' ∉ j.name.toList := by
  cases j <;> decide

theorem Junction.eq_of_name_eq {j k : Junction} (h : j.name = k.name) : j = k := by
  cases j <;> cases k <;> simp_all [Junction.name]

/-- The first quote that no backslash takes is the end: by induction on the steps before it. -/
theorem Quoted.append_cancel {a b : List Quoted} {r s : List Char}
    (h : a.flatMap Quoted.text ++ '"' :: r = b.flatMap Quoted.text ++ '"' :: s) :
    a = b ∧ r = s := by
  induction a generalizing b with
  | nil =>
    cases b with
    | nil => exact ⟨rfl, (List.cons.inj h).2⟩
    | cons y ys =>
      cases y with
      | bare d hd => exact absurd (List.cons.inj h).1.symm hd.1
      | taken d => exact absurd (List.cons.inj h).1 (by decide)
  | cons x xs ih =>
    cases b with
    | nil =>
      cases x with
      | bare c hc => exact absurd (List.cons.inj h).1 hc.1
      | taken c => exact absurd (List.cons.inj h).1 (by decide)
    | cons y ys =>
      cases x with
      | bare c hc =>
        cases y with
        | bare d hd =>
          obtain ⟨rfl, htail⟩ := List.cons.inj h
          obtain ⟨rfl, hrs⟩ := ih htail
          exact ⟨rfl, hrs⟩
        | taken d => exact absurd (List.cons.inj h).1 hc.2
      | taken c =>
        cases y with
        | bare d hd => exact absurd (List.cons.inj h).1.symm hd.2
        | taken d =>
          obtain ⟨rfl, htail⟩ := List.cons.inj (List.cons.inj h).2
          obtain ⟨rfl, hrs⟩ := ih htail
          exact ⟨rfl, hrs⟩

/-- The characters of numbers. -/
def isNumberChar (c : Char) : Bool := c.isDigit || c == '.'

theorem isNumberChar_of_isInteger {cs : List Char} (h : isInteger cs = true) :
    ∀ c ∈ cs, isNumberChar c = true := by
  intro c hc
  rw [isNumberChar, all_isDigit_of_isInteger h c hc, Bool.true_or]

theorem isNumberChar_of_isDecimal {cs : List Char} (h : isDecimal cs = true) :
    ∀ c ∈ cs, isNumberChar c = true := by
  obtain ⟨whole, fraction, rfl, hwhole, hfraction⟩ := isDecimal_iff.mp h
  intro c hc
  rcases List.mem_append.mp hc with hc | hc
  · rw [isNumberChar, hwhole c hc, Bool.true_or]
  · rcases List.mem_cons.mp hc with rfl | hc
    · decide
    · exact isNumberChar_of_isInteger hfraction c hc

theorem isDecimal_eq_false_of_isInteger {cs : List Char} (h : isInteger cs = true) :
    isDecimal cs = false := by
  cases hd : isDecimal cs with
  | false => rfl
  | true =>
    obtain ⟨whole, fraction, rfl, _, _⟩ := isDecimal_iff.mp hd
    exact absurd (all_isDigit_of_isInteger h '.' (by simp)) (by decide)

/-- What comes after a fragment: nothing, or the parenthesis that closes the one around it. -/
def Closes (rest : List Char) : Prop := ∀ c ∈ rest.head?, c = ')'

theorem closes_nil : Closes [] := by
  intro c hc
  cases hc

theorem closes_paren (rest : List Char) : Closes (')' :: rest) := by
  intro c hc
  cases hc
  rfl

theorem Closes.isNumberChar_eq_false {rest : List Char} (h : Closes rest) :
    ∀ c ∈ rest.head?, isNumberChar c = false := by
  intro c hc
  rw [h c hc]
  decide

theorem number_cancel {a b : String} {r s : List Char}
    (ha : ∀ c ∈ a.toList, isNumberChar c = true) (hb : ∀ c ∈ b.toList, isNumberChar c = true)
    (hr : Closes r) (hs : Closes s) (h : a.toList ++ r = b.toList ++ s) : a = b ∧ r = s := by
  obtain ⟨hab, hrs⟩ :=
    append_cancel_of_stop ha hb hr.isNumberChar_eq_false hs.isNumberChar_eq_false h
  exact ⟨String.toList_inj.mp hab, hrs⟩

theorem number_ne_quote {digits r : List Char} (hdigits : ∀ c ∈ digits, isNumberChar c = true)
    (hr : Closes r) (rest : List Char) : digits ++ r ≠ '"' :: rest := by
  intro h
  cases digits with
  | nil =>
    subst h
    exact absurd (hr '"' rfl) (by decide)
  | cons c cs =>
    obtain ⟨rfl, _⟩ := List.cons.inj h
    exact absurd (hdigits '"' List.mem_cons_self) (by decide)

theorem Constant.append_cancel {a b : Constant} {r s : List Char} (hr : Closes r) (hs : Closes s)
    (h : a.text ++ r = b.text ++ s) : a = b ∧ r = s := by
  cases a with
  | integer ds hds =>
    have hnumber := isNumberChar_of_isInteger hds
    cases b with
    | integer es hes =>
      obtain ⟨rfl, hrs⟩ := number_cancel hnumber (isNumberChar_of_isInteger hes) hr hs h
      exact ⟨rfl, hrs⟩
    | decimal es hes =>
      obtain ⟨rfl, _⟩ := number_cancel hnumber (isNumberChar_of_isDecimal hes) hr hs h
      rw [isDecimal_eq_false_of_isInteger hds] at hes
      cases hes
    | quoted chars => exact absurd h (number_ne_quote hnumber hr _)
  | decimal ds hds =>
    have hnumber := isNumberChar_of_isDecimal hds
    cases b with
    | integer es hes =>
      obtain ⟨rfl, _⟩ := number_cancel hnumber (isNumberChar_of_isInteger hes) hr hs h
      rw [isDecimal_eq_false_of_isInteger hes] at hds
      cases hds
    | decimal es hes =>
      obtain ⟨rfl, hrs⟩ := number_cancel hnumber (isNumberChar_of_isDecimal hes) hr hs h
      exact ⟨rfl, hrs⟩
    | quoted chars => exact absurd h (number_ne_quote hnumber hr _)
  | quoted chars =>
    cases b with
    | integer es hes => exact absurd h.symm (number_ne_quote (isNumberChar_of_isInteger hes) hs _)
    | decimal es hes => exact absurd h.symm (number_ne_quote (isNumberChar_of_isDecimal hes) hs _)
    | quoted chars' =>
      simp only [Constant.text, List.cons_append, List.append_assoc, List.nil_append,
        List.cons.injEq, true_and] at h
      obtain ⟨rfl, hrs⟩ := Quoted.append_cancel h
      exact ⟨rfl, hrs⟩

/-! ## Fragments have one reading -/

namespace Fragment

theorem text_not_append (f : Fragment) (rest : List Char) :
    (Fragment.not f).text ++ rest = "NOT".toList ++ '(' :: (f.text ++ ')' :: rest) := by
  simp [text]

theorem text_join_append (j : Junction) (l r : Fragment) (rest : List Char) :
    (join j l r).text ++ rest =
      '(' :: (l.text ++ ')' :: ' ' :: (j.name.toList ++ ' ' :: '(' :: (r.text ++ ')' :: rest))) := by
  simp [text]

theorem text_leaf_append (column : Column) (op : Operator) (k : Constant) (rest : List Char) :
    (leaf column op k).text ++ rest =
      column.name.toList ++ ' ' :: (op.sql.toList ++ ' ' :: (k.text ++ rest)) := by
  simp [text]

/-- A column named `NOT` has a blank after it. -/
theorem leaf_ne_not (column : Column) (op : Operator) (k : Constant) (f : Fragment)
    (r s : List Char) : (leaf column op k).text ++ r ≠ (Fragment.not f).text ++ s := by
  intro h
  rw [text_leaf_append, text_not_append] at h
  have hnot : ∀ c ∈ "NOT".toList, isNameChar c = true :=
    List.all_eq_true.mp (all_isNameChar_of_isName (Builtin.isName_name .not))
  obtain ⟨_, hrest⟩ := append_cancel_of_stop column.isNameChar_of_mem hnot
    (by simp; decide) (by simp; decide) h
  exact absurd (List.cons.inj hrest).1 (by decide)

theorem leaf_ne_join (column : Column) (op : Operator) (k : Constant) (j : Junction)
    (f g : Fragment) (r s : List Char) : (leaf column op k).text ++ r ≠ (join j f g).text ++ s := by
  intro h
  rw [text_leaf_append, text_join_append] at h
  cases hname : column.name.toList with
  | nil =>
    rw [hname] at h
    exact absurd (List.cons.inj h).1 (by decide)
  | cons c cs =>
    rw [hname] at h
    obtain ⟨rfl, _⟩ := List.cons.inj h
    exact absurd (column.isNameChar_of_mem '(' (by simp [hname])) (by decide)

theorem not_ne_join (f : Fragment) (j : Junction) (g k : Fragment) (r s : List Char) :
    (Fragment.not f).text ++ r ≠ (join j g k).text ++ s := by
  intro h
  rw [text_not_append, text_join_append] at h
  exact absurd (List.cons.inj h).1 (by decide)

/-- Two derivations of one text are the same, also if text follows. By induction on the first: the
parenthesis that closes an inner fragment is found because the fragment is read to its end. -/
theorem eq_of_text_append (f : Fragment) : ∀ (g : Fragment) (r s : List Char),
    Closes r → Closes s → f.text ++ r = g.text ++ s → f = g ∧ r = s := by
  induction f with
  | not f ih =>
    intro g r s _ _ h
    cases g with
    | not g =>
      rw [text_not_append, text_not_append] at h
      have hinner := (List.cons.inj (List.append_cancel_left h)).2
      obtain ⟨rfl, hrest⟩ := ih g _ _ (closes_paren r) (closes_paren s) hinner
      exact ⟨rfl, (List.cons.inj hrest).2⟩
    | join j g k => exact absurd h (not_ne_join f j g k r s)
    | leaf column op k => exact absurd h.symm (leaf_ne_not column op k f s r)
  | join j fl fr ihl ihr =>
    intro g r s _ _ h
    cases g with
    | not g => exact absurd h.symm (not_ne_join g j fl fr s r)
    | join k gl gr =>
      rw [text_join_append, text_join_append] at h
      obtain ⟨rfl, hmiddle⟩ := ihl gl _ _ (closes_paren _) (closes_paren _) (List.cons.inj h).2
      obtain ⟨hname, hright⟩ := word_cancel j.blank_notMem k.blank_notMem
        (List.cons.inj (List.cons.inj hmiddle).2).2
      obtain ⟨rfl, hrest⟩ := ihr gr _ _ (closes_paren r) (closes_paren s) (List.cons.inj hright).2
      rw [Junction.eq_of_name_eq hname]
      exact ⟨rfl, (List.cons.inj hrest).2⟩
    | leaf column op k => exact absurd h.symm (leaf_ne_join column op k j fl fr s r)
  | leaf column op k =>
    intro g r s hr hs h
    cases g with
    | not g => exact absurd h (leaf_ne_not column op k g r s)
    | join j gl gr => exact absurd h (leaf_ne_join column op k j gl gr r s)
    | leaf column' op' k' =>
      rw [text_leaf_append, text_leaf_append] at h
      obtain ⟨hcolumn, hop⟩ := word_cancel column.blank_notMem column'.blank_notMem h
      obtain ⟨hsql, hk⟩ := word_cancel op.blank_notMem op'.blank_notMem hop
      obtain ⟨rfl, hrest⟩ := Constant.append_cancel hr hs hk
      cases column
      cases hcolumn
      rw [Operator.eq_of_sql_eq hsql]
      exact ⟨rfl, hrest⟩

theorem eq_of_text_eq {f g : Fragment} (h : f.text = g.text) : f = g := by
  refine (eq_of_text_append f g [] [] closes_nil closes_nil ?_).1
  rw [h]

end Fragment

end FilterExpr
