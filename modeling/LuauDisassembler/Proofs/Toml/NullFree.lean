import Mathlib.Data.Option.Basic
import LuauDisassembler.Toml.Parser

/-!
# Documents hold no null

A configuration value may be null, but no document can write one: there is no word for it, and every
entry of a table is made by a statement that gives it a value.  So an entry that a table does not
lack always has a value that is not null.

The readers are followed by what they can yield (`Reader.Yields`), whatever text they read; the
statements are followed by the nodes that they put into the tree of tables.

* `Value.NullFree`, `Node.NullFree`, `Entries.NullFree`: nothing inside is null.
* `Entries.NullFree.put`, `Entries.NullFree.modifyAt`, `Document.nullFree_add`: the changes that
  statements make.
* `yields_value`, `yields_statements`: what is read from any text.
* `nullFree_of_parse?`, `lookup_ne_null`: all of a document, and the entries of a table in it.
-/

namespace LuauDisassembler

/-- Nothing in the value is null. -/
inductive Value.NullFree : Value → Prop
  | bool (b : Bool) : NullFree (.bool b)
  | int (n : Int) : NullFree (.int n)
  | float (x : Decimal.Binary64) : NullFree (.float x)
  | string (s : String) : NullFree (.string s)
  | list {items : List Value} (h : ∀ v ∈ items, NullFree v) : NullFree (.list items)
  | table {entries : List (String × Value)} (h : ∀ p ∈ entries, NullFree p.2) :
      NullFree (.table entries)
  | date (d : Date) : NullFree (.date d)
  | clock (t : Clock) : NullFree (.clock t)
  | moment (d : Date) (t : Clock) (o : Option Offset) : NullFree (.moment d t o)

namespace Toml

/-! ### Tables -/

/-- An entry that is found in a table is one of its entries. -/
theorem mem_of_lookup {α : Type} {es : List (String × α)} {k : String} {a : α}
    (h : es.lookup k = some a) : (k, a) ∈ es := by
  obtain ⟨l, r, rfl, -⟩ := List.lookup_eq_some_iff.1 h
  exact List.mem_append_right l List.mem_cons_self

/-- Nothing in the node is null. -/
inductive Node.NullFree : Node → Prop
  | value {v : Value} (h : v.NullFree) : NullFree (.value v)
  | table {definedIn : Option Nat} {entries : Entries} (h : ∀ p ∈ entries, NullFree p.2) :
      NullFree (.table definedIn entries)
  | tables {earlier : List Value} {last : Entries} (hearlier : ∀ v ∈ earlier, v.NullFree)
      (hlast : ∀ p ∈ last, NullFree p.2) : NullFree (.tables earlier last)

/-- Nothing in the table is null. -/
def Entries.NullFree (es : Entries) : Prop := ∀ p ∈ es, p.2.NullFree

theorem finish_eq_map (es : Entries) : finish es = es.map fun p => (p.1, p.2.toValue) := by
  induction es with
  | nil => rfl
  | cons p es ih => rw [finish, ih, List.map_cons]

/-- What is unfinished and free of null is so when it is finished. -/
theorem Node.NullFree.toValue {n : Node} (h : n.NullFree) : n.toValue.NullFree := by
  induction h with
  | value h => exact h
  | table _ ih =>
    rw [Node.toValue, finish_eq_map]
    refine .table ?_
    simpa only [List.forall_mem_map] using ih
  | tables hearlier _ ih =>
    rw [Node.toValue, finish_eq_map]
    refine .list (List.forall_mem_append.2 ⟨hearlier, List.forall_mem_singleton.2 (.table ?_)⟩)
    simpa only [List.forall_mem_map] using ih

namespace Entries

variable {es es' : Entries}

theorem NullFree.finish (h : es.NullFree) : ∀ p ∈ finish es, p.2.NullFree := by
  rw [finish_eq_map]
  simpa only [List.forall_mem_map] using fun p hp => (h p hp).toValue

theorem NullFree.toTable (h : es.NullFree) : (toTable es).NullFree := .table h.finish

theorem nullFree_nil : NullFree [] := by
  intro p hp
  cases hp

theorem NullFree.lookup (h : es.NullFree) {k : String} {n : Node} (hn : es.lookup k = some n) :
    n.NullFree := h (k, n) (mem_of_lookup hn)

theorem NullFree.set (h : es.NullFree) {k : String} {n : Node} (hn : n.NullFree) :
    (es.set k n).NullFree := by
  induction es with
  | nil => exact List.forall_mem_singleton.2 hn
  | cons p es ih =>
    obtain ⟨hp, hes⟩ := List.forall_mem_cons.1 h
    rw [Entries.set]
    split
    · exact List.forall_mem_cons.2 ⟨hn, hes⟩
    · exact List.forall_mem_cons.2 ⟨hp, ih hes⟩

/-- **A dotted key** puts nothing but its value into the tables. -/
theorem NullFree.put {here : Nat} {path : List String} {v : Value} (h : es.NullFree)
    (hv : v.NullFree) (hput : Entries.put here path v es = some es') : es'.NullFree := by
  fun_induction Entries.put here path v es generalizing es' with
  | case1 => cases hput
  | case2 k v es hk =>
    cases hput
    exact h.set (.value hv)
  | case3 => cases hput
  | case4 k path v es hpath hk ih =>
    obtain ⟨inner, hinner, rfl⟩ := Option.map_eq_some_iff.1 hput
    exact h.set (.table (ih nullFree_nil hv hinner))
  | case5 k path v es hpath definedIn inner hk hopen ih =>
    obtain ⟨inner', hinner, rfl⟩ := Option.map_eq_some_iff.1 hput
    cases h.lookup hk with
    | table hold => exact h.set (.table (ih hold hv hinner))
  | case6 => cases hput
  | case7 => cases hput

/-- **A header** changes nothing but the table to which it leads. -/
theorem NullFree.modifyAt {change : Entries → Option Entries}
    (hchange : ∀ es es', NullFree es → change es = some es' → NullFree es')
    {path : List String} (h : es.NullFree) (hmodify : Entries.modifyAt change path es = some es') :
    es'.NullFree := by
  fun_induction Entries.modifyAt change path es generalizing es' with
  | case1 es => exact hchange es es' h hmodify
  | case2 k path es hk ih =>
    obtain ⟨inner, hinner, rfl⟩ := Option.map_eq_some_iff.1 hmodify
    exact h.set (.table (ih nullFree_nil hinner))
  | case3 k path es definedIn inner hk ih =>
    obtain ⟨inner', hinner, rfl⟩ := Option.map_eq_some_iff.1 hmodify
    cases h.lookup hk with
    | table hold => exact h.set (.table (ih hold hinner))
  | case4 k path es earlier last hk ih =>
    obtain ⟨last', hlast, rfl⟩ := Option.map_eq_some_iff.1 hmodify
    cases h.lookup hk with
    | tables hearlier hold => exact h.set (.tables hearlier (ih hold hlast))
  | case5 => cases hmodify

theorem NullFree.openTable {here : Nat} {k : String} (h : es.NullFree)
    (hopen : Entries.openTable here k es = some es') : es'.NullFree := by
  unfold Entries.openTable at hopen
  cases hk : es.lookup k with
  | none =>
    rw [hk] at hopen
    cases hopen
    exact h.set (.table nullFree_nil)
  | some n =>
    rw [hk] at hopen
    cases h.lookup hk with
    | value => cases hopen
    | tables => cases hopen
    | @table definedIn inner hold =>
      cases definedIn with
      | some _ => cases hopen
      | none =>
        cases hopen
        exact h.set (.table hold)

theorem NullFree.openElement {k : String} (h : es.NullFree)
    (hopen : Entries.openElement k es = some es') : es'.NullFree := by
  unfold Entries.openElement at hopen
  cases hk : es.lookup k with
  | none =>
    rw [hk] at hopen
    cases hopen
    exact h.set (.tables (by simp) nullFree_nil)
  | some n =>
    rw [hk] at hopen
    cases h.lookup hk with
    | value => cases hopen
    | table => cases hopen
    | tables hearlier hlast =>
      cases hopen
      have hall := List.forall_mem_append.2 ⟨hearlier, List.forall_mem_singleton.2 (toTable hlast)⟩
      exact h.set (.tables hall nullFree_nil)

end Entries

/-! ### Statements -/

/-- The value that the statement assigns, if it does, is free of null. -/
def Statement.NullFree : Statement → Prop
  | .assignment _ v => v.NullFree
  | _ => True

/-- **A statement that is free of null** keeps a document so. -/
theorem Document.nullFree_add {doc doc' : Document} {s : Statement} (h : doc.entries.NullFree)
    (hs : s.NullFree) (hadd : doc.add s = some doc') : doc'.entries.NullFree := by
  cases s with
  | header path k =>
    obtain ⟨entries, hentries, hdoc⟩ := Option.bind_eq_some_iff.1 hadd
    cases hdoc
    exact h.modifyAt (fun _ _ hes => hes.openTable) hentries
  | arrayHeader path k =>
    obtain ⟨entries, hentries, hdoc⟩ := Option.bind_eq_some_iff.1 hadd
    cases hdoc
    exact h.modifyAt (fun _ _ hes => hes.openElement) hentries
  | assignment path v =>
    obtain ⟨entries, hentries, hdoc⟩ := Option.bind_eq_some_iff.1 hadd
    cases hdoc
    exact h.modifyAt (fun _ _ hes => hes.put hs) hentries

theorem Document.nullFree_foldlM {ss : List Statement} (hss : ∀ s ∈ ss, s.NullFree)
    {doc doc' : Document} (h : doc.entries.NullFree) (hrun : ss.foldlM add doc = some doc') :
    doc'.entries.NullFree := by
  induction ss generalizing doc with
  | nil =>
    cases hrun
    exact h
  | cons s ss ih =>
    obtain ⟨hs, hss⟩ := List.forall_mem_cons.1 hss
    rw [List.foldlM_cons] at hrun
    obtain ⟨next, hnext, hrun⟩ := Option.bind_eq_some_iff.1 hrun
    exact ih hss (nullFree_add h hs hnext) hrun

theorem Document.nullFree_ofStatements {ss : List Statement} (hss : ∀ s ∈ ss, s.NullFree)
    {entries : List (String × Value)} (h : ofStatements ss = some entries) :
    ∀ p ∈ entries, p.2.NullFree := by
  obtain ⟨doc, hdoc, rfl⟩ := Option.map_eq_some_iff.1 h
  exact (nullFree_foldlM hss Entries.nullFree_nil hdoc).finish

/-! ### Readers -/

namespace Reader

variable {α β : Type} {P : α → Prop} {Q : β → Prop}

/-- Whatever the reader takes from a text has the property. -/
def Yields (r : Reader α) (P : α → Prop) : Prop := ∀ s a rest, r s = some (a, rest) → P a

theorem Yields.pure {a : α} (h : P a) : Yields (Pure.pure a) P := by
  intro s a' rest heq
  cases heq
  exact h

theorem yields_failure : Yields failure P := by
  intro s a rest heq
  cases heq

/-- A sequence yields what its last reader does, for all that the ones before it can yield. -/
theorem Yields.bind {r : Reader α} {f : α → Reader β} (hr : r.Yields P)
    (hf : ∀ a, P a → (f a).Yields Q) : (r >>= f).Yields Q := by
  intro s b rest heq
  obtain ⟨⟨a, s'⟩, ha, hb⟩ := Option.bind_eq_some_iff.1 heq
  exact hf a (hr s a s' ha) s' b rest hb

theorem Yields.then {r : Reader α} {f : α → Reader β} (hf : ∀ a, (f a).Yields Q) :
    (r >>= f).Yields Q :=
  Yields.bind (P := fun _ => True) (fun _ _ _ _ => trivial) fun a _ => hf a

theorem Yields.orElse {r r' : Reader α} (h : r.Yields P) (h' : r'.Yields P) :
    (r <|> r').Yields P := by
  intro s a rest heq
  have hor : (r s <|> r' s) = some (a, rest) := heq
  cases hr : r s with
  | none =>
    rw [hr] at hor
    exact h' s a rest hor
  | some x =>
    rw [hr] at hor
    cases hor
    exact h s a rest hr

/-- A repetition yields what its items do. -/
theorem Yields.many {item : Reader (Option α)} (h : item.Yields fun o => ∀ a ∈ o, P a) :
    (Reader.many item).Yields fun as => ∀ a ∈ as, P a := by
  refine .then fun bound => ?_
  induction bound with
  | nil =>
    refine .then fun o => ?_
    cases o with
    | none => exact .pure (by simp)
    | some a => exact yields_failure
  | cons c bound ih =>
    refine .bind h fun o ho => ?_
    cases o with
    | none => exact .pure (by simp)
    | some a => exact .bind ih fun as has => .pure (List.forall_mem_cons.2 ⟨ho a rfl, has⟩)

/-- What a loop of readers carries along keeps a property that each of them keeps. -/
theorem Yields.foldlM {f : β → α → Reader β} {as : List α}
    (hf : ∀ a ∈ as, ∀ b, Q b → (f b a).Yields Q) {b : β} (hb : Q b) :
    (as.foldlM f b).Yields Q := by
  induction as generalizing b with
  | nil => exact .pure hb
  | cons a as ih =>
    obtain ⟨hstep, hrest⟩ := List.forall_mem_cons.1 hf
    rw [List.foldlM_cons]
    exact .bind (hstep b hb) fun _ hb' => ih hrest hb'

/-- A change that may fail takes nothing from the text. -/
theorem yields_lift {o : Option α} (h : ∀ a, o = some a → P a) : Yields (liftM o) P := by
  intro s a rest heq
  obtain ⟨a', ha', hpair⟩ := Option.bind_eq_some_iff.1 heq
  cases hpair
  exact h a ha'

end Reader

/-! ### Scalars -/

open Reader

theorem yields_based (mark : Char) (base : Nat) (isDigit : Char → Bool) :
    (based mark base isDigit).Yields Value.NullFree :=
  .then fun _ => .then fun _ => .pure (.int _)

theorem yields_decimalNumber : decimalNumber.Yields Value.NullFree := by
  refine .then fun _ => .then fun _ => .then fun _ => .then fun part => .then fun scale => ?_
  split
  · exact .pure (.int _)
  · exact .pure (.float _)

theorem yields_namedNumber : namedNumber.Yields Value.NullFree := by
  refine .then fun _ => .then fun _ => ?_
  split
  · exact .pure (.float _)
  · exact .then fun _ => .pure (.float _)

theorem yields_number : number.Yields Value.NullFree := by
  refine .then fun _ => ?_
  split
  · exact yields_based _ _ _
  refine .then fun _ => ?_
  split
  · exact yields_based _ _ _
  refine .then fun _ => ?_
  split
  · exact yields_based _ _ _
  · exact .orElse yields_decimalNumber yields_namedNumber

theorem yields_moment : moment.Yields Value.NullFree := by
  refine .then fun d => .then fun o => ?_
  cases o with
  | none => exact .pure (.date d)
  | some o => exact .pure (.moment d o.1 o.2)

theorem yields_scalar : scalar.Yields Value.NullFree := by
  refine .then fun s => ?_
  split
  · exact yields_moment
  split
  · exact .then fun _ => .pure (.clock _)
  · exact yields_number

/-! ### Values -/

section

variable {item : Reader Value} (h : item.Yields Value.NullFree)

include h

theorem yields_array : (array item).Yields Value.NullFree := by
  refine .then fun _ => .bind (.many (P := Value.NullFree) ?_) fun items hitems =>
    .then fun _ => .pure (.list hitems)
  refine .then fun _ => .then fun close => ?_
  split
  · exact .pure (by simp)
  refine .bind h fun v hv => .then fun _ => .then fun comma => ?_
  have hsome : ∀ w ∈ some v, w.NullFree := by
    rintro w ⟨⟩
    exact hv
  split
  · exact .pure hsome
  · exact .then fun _ => .then fun _ => .pure hsome

theorem yields_assignment : (assignment item).Yields fun p => p.2.NullFree :=
  .then fun _ => .then fun _ => .then fun _ => .bind h fun _ hv => .pure hv

theorem yields_inlineTable : (inlineTable item).Yields Value.NullFree := by
  refine .then fun _ => .then fun _ => .then fun close => ?_
  split
  · exact .pure (.table (by simp))
  refine .bind (yields_assignment h) fun first hfirst => .then fun _ =>
    .bind (.many (P := fun p => p.2.NullFree) ?_) fun others hothers => .then fun _ =>
    .bind (P := Entries.NullFree) (.foldlM ?_ Entries.nullFree_nil) fun es hes => .pure hes.toTable
  · refine .then fun comma => ?_
    split
    · refine .then fun _ => .bind (yields_assignment h) fun p hp => .then fun _ => .pure ?_
      rintro q ⟨⟩
      exact hp
    · exact .pure (by simp)
  · intro p hp es hes
    have hv : ∀ q ∈ first :: others, q.2.NullFree := List.forall_mem_cons.2 ⟨hfirst, hothers⟩
    exact yields_lift fun es' hput => hes.put (hv p hp) hput

end

theorem yields_valueAlong (bound : List Char) : (valueAlong bound).Yields Value.NullFree := by
  induction bound with
  | nil => exact yields_failure
  | cons c bound ih =>
    refine .then fun s => ?_
    split
    · exact .then fun _ => .pure (.string _)
    · exact .then fun _ => .pure (.string _)
    · exact .then fun _ => .pure (.string _)
    · exact .then fun _ => .pure (.string _)
    · exact .then fun _ => .pure (.bool _)
    · exact .then fun _ => .pure (.bool _)
    · exact yields_array ih
    · exact yields_inlineTable ih
    · exact yields_scalar

/-- **Every value that is read** is free of null. -/
theorem yields_value : value.Yields Value.NullFree := .then yields_valueAlong

/-! ### Documents -/

theorem yields_header : header.Yields Statement.NullFree := by
  refine .then fun array => ?_
  split
  · exact .then fun _ => .then fun _ => .then fun _ => .then fun _ => .pure trivial
  · exact .then fun _ => .then fun _ => .then fun _ => .then fun _ => .then fun _ => .pure trivial

theorem yields_statement : statement.Yields fun o => ∀ s ∈ o, s.NullFree := by
  refine .then fun text => ?_
  split
  · exact .pure (by simp)
  split
  · exact .pure (by simp)
  split
  · refine .bind yields_header fun s hs => .pure ?_
    rintro t ⟨⟩
    exact hs
  · refine .bind (yields_assignment yields_value) fun p hp => .pure ?_
    rintro t ⟨⟩
    exact hp

theorem yields_line : line.Yields fun o => ∀ l ∈ o, ∀ s ∈ l, s.NullFree := by
  refine .then fun _ => .then fun text => ?_
  split
  · exact .pure (by simp)
  refine .bind yields_statement fun l hl => .then fun _ => .then fun _ => .then fun rest => ?_
  have hsome : ∀ l' ∈ some l, ∀ s ∈ l', s.NullFree := by
    rintro l' ⟨⟩
    exact hl
  split
  · exact .pure hsome
  · exact .then fun _ => .pure hsome

theorem yields_statements : statements.Yields fun ss => ∀ s ∈ ss, s.NullFree := by
  refine .bind (.many yields_line) fun ls hls => .pure ?_
  intro s hs
  obtain ⟨l, hl, heq⟩ := List.mem_filterMap.1 hs
  exact hls l hl s heq

/-- **A document holds no null.** -/
theorem nullFree_of_parse? {text : List Char} {entries : List (String × Value)}
    (h : parse? text = some entries) : ∀ p ∈ entries, p.2.NullFree := by
  obtain ⟨⟨ss, rest⟩, hss, hentries⟩ := Option.bind_eq_some_iff.1 h
  exact Document.nullFree_ofStatements (yields_statements text ss rest hss) hentries

/-- No entry of a table in a document is null. -/
theorem lookup_ne_null {text : List Char} {entries es : List (String × Value)} {k l : String}
    (h : parse? text = some entries) (htable : entries.lookup k = some (.table es)) :
    es.lookup l ≠ some .null := by
  intro hnull
  cases nullFree_of_parse? h _ (mem_of_lookup htable) with
  | table hes => cases hes _ (mem_of_lookup hnull)

end Toml

end LuauDisassembler
