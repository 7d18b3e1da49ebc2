/-
  JitTarget.Proofs.TomlKeys
  ────────────────────────────────
  **A KEY IS SET AT MOST ONCE.**

  Whatever a document spells, and in however many places, every table it describes
  has each of its keys once: a key is put into a table only where it is free, and
  a table is entered under the key it stands under.

      Entries.Keyed           — the entries of a growing table
      descend_keyed           — a change deep in a document
      value?_keyed            — what the reader makes of a value
      Draft.step?_keyed       — what one statement makes of a document
      keyed_of_parse?         — what is read of any text

  So the order of keys says nothing, and tables are compared key by key:

      Value.Alike.lookup      — what two tables that say the same have under a key
      Value.Alike.of_perm     — tables with their keys in another order
-/
import JitTarget.Proofs.TomlSections

namespace JitTarget.Toml

/-! ## §1. Entries. -/

/-- The keys of some entries are distinct, and so are those further in. -/
structure Entries.Keyed (entries : Entries) : Prop where
  nodup : (entries.map Prod.fst).Nodup
  within : ∀ entry ∈ entries, entry.2.2.data.Keyed

theorem keyed_table_iff {entries : Entries} :
    (Value.table (dataOfEntries entries)).Keyed ↔ entries.Keyed := by
  constructor
  · intro h
    cases h with
    | array hv => cases hv
    | table hkeys hentries =>
        rw [keys_dataOfEntries] at hkeys
        refine ⟨hkeys, fun entry hentry => hentries (entry.1, entry.2.2.data) ?_⟩
        rw [dataOfEntries_eq]
        exact List.mem_map.mpr ⟨entry, hentry, rfl⟩
  · intro h
    refine .table ?_ ?_
    · rw [keys_dataOfEntries]
      exact h.nodup
    · rw [dataOfEntries_eq]
      intro entry hentry
      obtain ⟨e, he, rfl⟩ := List.mem_map.mp hentry
      exact h.within e he

theorem keys_replaceNode (key : String) (n : Node) (entries : Entries) :
    (replaceNode key n entries).map Prod.fst = entries.map Prod.fst := by
  induction entries with
  | nil => rfl
  | cons entry entries ih =>
      rw [replaceNode]
      split
      · rfl
      · rw [List.map_cons, ih, List.map_cons]

theorem mem_replaceNode {key : String} {n : Node} {entries : Entries}
    {entry : String × Extent × Node} (h : entry ∈ replaceNode key n entries) :
    entry ∈ entries ∨ entry.2.2 = n := by
  induction entries with
  | nil => exact Or.inl h
  | cons first entries ih =>
      rw [replaceNode] at h
      split at h
      · rcases List.mem_cons.mp h with rfl | h
        · exact Or.inr rfl
        · exact Or.inl (List.mem_cons_of_mem first h)
      · rcases List.mem_cons.mp h with rfl | h
        · exact Or.inl List.mem_cons_self
        · exact (ih h).imp_left (List.mem_cons_of_mem first)

theorem removeNode_sublist (key : String) (entries : Entries) :
    (removeNode key entries).Sublist entries := by
  induction entries with
  | nil => exact List.Sublist.refl _
  | cons entry entries ih =>
      rw [removeNode]
      split
      · exact List.sublist_cons_self _ _
      · exact ih.cons_cons _

/-- What is taken out is gone, where it stood once. -/
theorem not_mem_removeNode {key : String} {entries : Entries}
    (h : (entries.map Prod.fst).Nodup) : key ∉ (removeNode key entries).map Prod.fst := by
  induction entries with
  | nil => exact List.not_mem_nil
  | cons entry entries ih =>
      rw [List.map_cons, List.nodup_cons] at h
      rw [removeNode]
      split
      next hkey =>
        rw [← hkey]
        exact h.1
      next hkey =>
        rw [List.map_cons, List.mem_cons, not_or]
        exact ⟨Ne.symm hkey, ih h.2⟩

namespace Entries.Keyed

variable {entries : Entries} {key : String} {n : Node}

/-- A key that is free may be set. -/
theorem append (h : entries.Keyed) (hfree : key ∉ entries.map Prod.fst) (e : Extent)
    (hn : n.data.Keyed) : Entries.Keyed (entries ++ [(key, e, n)]) := by
  constructor
  · rw [List.map_append, List.nodup_append]
    refine ⟨h.nodup, List.nodup_cons.mpr ⟨List.not_mem_nil, List.nodup_nil⟩, ?_⟩
    rintro k hk k' hk' rfl
    obtain rfl : k = key := by simpa using hk'
    exact hfree hk
  · intro entry hentry
    rcases List.mem_append.mp hentry with hentry | hentry
    · exact h.within entry hentry
    · obtain rfl : entry = (key, e, n) := List.mem_singleton.mp hentry
      exact hn

/-- What stands under a key may change. -/
theorem replace (h : entries.Keyed) (key : String) (hn : n.data.Keyed) :
    (replaceNode key n entries).Keyed := by
  constructor
  · rw [keys_replaceNode]
    exact h.nodup
  · intro entry hentry
    rcases mem_replaceNode hentry with hentry | rfl
    · exact h.within entry hentry
    · exact hn

/-- A key may be taken out. -/
theorem remove (h : entries.Keyed) (key : String) : (removeNode key entries).Keyed := by
  have hsub := removeNode_sublist key entries
  exact ⟨h.nodup.sublist (hsub.map Prod.fst), fun entry he => h.within entry (hsub.subset he)⟩

end Entries.Keyed

/-! ## §2. Growing tables. -/

namespace Branch

/-- The keys of a growing table are distinct, and so are those further in. -/
def Keyed (b : Branch Node) : Prop := Entries.Keyed b.entries

theorem keyed_iff (b : Branch Node) : b.Keyed ↔ (Value.table b.data).Keyed := by
  rw [data_eq, keyed_table_iff]
  exact Iff.rfl

theorem keyed_empty (origin : Origin) (extent : Option Extent) :
    Keyed ⟨origin, extent, []⟩ :=
  ⟨List.nodup_nil, fun _ he => absurd he List.not_mem_nil⟩

variable {b : Branch Node} {key : String} {n : Node}

theorem not_mem_of_get?_eq_none (h : b.get? key = none) : key ∉ b.entries.map Prod.fst := by
  rw [get?, Option.map_eq_none_iff] at h
  rw [mem_keys_iff, h]
  exact Bool.false_ne_true

theorem exists_mem_of_get?_eq_some (h : b.get? key = some n) :
    ∃ e, (key, e, n) ∈ b.entries := by
  rw [get?, Option.map_eq_some_iff] at h
  obtain ⟨⟨e, _⟩, hlookup, rfl⟩ := h
  exact ⟨e, mem_of_lookup_eq_some hlookup⟩

namespace Keyed

theorem of_get? (h : b.Keyed) (hget : b.get? key = some n) : n.data.Keyed := by
  obtain ⟨e, hmem⟩ := exists_mem_of_get?_eq_some hget
  exact h.within _ hmem

theorem append (h : b.Keyed) {part : Part} (hfree : b.get? part.text = none)
    (hn : n.data.Keyed) : (b.append part n).Keyed :=
  Entries.Keyed.append h (not_mem_of_get?_eq_none hfree) part.extent hn

theorem reaching (h : b.Keyed) (value : Node) : (b.reaching value).Keyed := by
  unfold Branch.reaching
  split <;> exact h

end Keyed

end Branch

theorem keyed_branch_iff (b : Branch Node) : (Node.branch b).data.Keyed ↔ b.Keyed :=
  (b.keyed_iff).symm

theorem dataOfTables_eq (tables : List (Branch Node)) :
    dataOfTables tables = tables.map (fun b => .table b.data) := by
  induction tables with
  | nil => rfl
  | cons b tables ih =>
      rw [dataOfTables, ih]
      rfl

theorem keyed_series_iff (tables : List (Branch Node)) :
    (Node.series tables).data.Keyed ↔ ∀ b ∈ tables, b.Keyed := by
  have hdata : (Node.series tables).data = .series (tables.map (fun b => .table b.data)) := by
    rw [Node.data, dataOfTables_eq]
  rw [hdata]
  constructor
  · intro h
    cases h with
    | array hv hitems =>
        obtain rfl := Option.some.inj hv
        intro b hb
        exact b.keyed_iff.mpr (hitems _ (List.mem_map_of_mem hb))
  · intro h
    refine .array rfl (fun item hitem => ?_)
    obtain ⟨b, hb, rfl⟩ := List.mem_map.mp hitem
    exact b.keyed_iff.mp (h b hb)

/-- **A change deep in a table** keeps keys distinct, if the change itself does. -/
theorem descend_keyed {isDotted : Bool} {change : Branch Node → Option (Branch Node)}
    (hchange : ∀ b b', b.Keyed → change b = some b' → b'.Keyed) {path : List Part}
    {b b' : Branch Node} (h : b.Keyed) (heq : descend isDotted change path b = some b') :
    b'.Keyed := by
  -- on the path: the table under its first part is what the rest of it changes
  induction path generalizing b b' with
  | nil => exact hchange b b' h heq
  | cons part path ih =>
      rw [descend] at heq
      split at heq
      next hget =>
        obtain ⟨child, hchild, rfl⟩ := Option.map_eq_some_iff.mp heq
        have hkeyed := ih (Branch.keyed_empty _ none) hchild
        exact h.append hget ((keyed_branch_iff child).mpr hkeyed)
      next child hget =>
        split at heq
        · cases heq
        · obtain ⟨child', hchild, rfl⟩ := Option.map_eq_some_iff.mp heq
          have hkeyed := ih ((keyed_branch_iff child).mp (h.of_get? hget)) hchild
          exact Entries.Keyed.replace h part.text ((keyed_branch_iff child').mpr hkeyed)
      next tables hget =>
        split at heq
        · cases heq
        next table hlast =>
          obtain ⟨table', htable, rfl⟩ := Option.map_eq_some_iff.mp heq
          have hall := (keyed_series_iff tables).mp (h.of_get? hget)
          have hkeyed := ih (hall table (List.mem_of_getLast? hlast)) htable
          refine Entries.Keyed.replace h part.text ((keyed_series_iff _).mpr ?_)
          intro b hb
          rcases List.mem_append.mp hb with hb | hb
          · exact hall b (List.dropLast_subset tables hb)
          · rw [List.mem_singleton.mp hb]
            exact hkeyed
      next => cases heq

namespace Branch.Keyed

variable {b b' : Branch Node} {key : Key}

/-- A value that is set goes where its key is free. -/
theorem set? (h : b.Keyed) {value : Node} (hvalue : value.data.Keyed)
    (heq : b.set? key value = some b') : b'.Keyed := by
  obtain ⟨whole, hwhole, rfl⟩ := Option.map_eq_some_iff.mp heq
  refine (descend_keyed ?_ h hwhole).reaching value
  intro parent parent' hparent hset
  unfold setLast at hset
  split at hset
  · cases hset
  · split at hset
    · cases hset
    next hfree =>
      obtain rfl := Option.some.inj hset
      exact hparent.append (Option.not_isSome_iff_eq_none.mp hfree) hvalue

/-- A table that is opened is new, or moves with what it holds. -/
theorem openTable? (h : b.Keyed) {header : Extent}
    (heq : b.openTable? key header = some b') : b'.Keyed := by
  refine descend_keyed ?_ h heq
  intro parent parent' hparent hopen
  split at hopen
  next hfree =>
    obtain rfl := Option.some.inj hopen
    exact hparent.append hfree ((keyed_branch_iff _).mpr (keyed_empty _ _))
  next entries hget =>
    obtain rfl := Option.some.inj hopen
    have hchild := (keyed_branch_iff _).mp (hparent.of_get? hget)
    exact Entries.Keyed.append (Entries.Keyed.remove hparent key.last.text)
      (not_mem_removeNode hparent.nodup) _ ((keyed_branch_iff _).mpr hchild)
  next => cases hopen

/-- A new element of an array of tables is empty. -/
theorem openElement? (h : b.Keyed) {header : Extent}
    (heq : b.openElement? key header = some b') : b'.Keyed := by
  refine descend_keyed ?_ h heq
  intro parent parent' hparent hopen
  dsimp only at hopen
  split at hopen
  next hfree =>
    obtain rfl := Option.some.inj hopen
    refine hparent.append hfree ((keyed_series_iff _).mpr ?_)
    intro table htable
    rw [List.mem_singleton.mp htable]
    exact keyed_empty _ _
  next tables hget =>
    obtain rfl := Option.some.inj hopen
    have hall := (keyed_series_iff tables).mp (hparent.of_get? hget)
    refine Entries.Keyed.replace hparent key.last.text ((keyed_series_iff _).mpr ?_)
    intro table htable
    rcases List.mem_append.mp htable with htable | htable
    · exact hall table htable
    · rw [List.mem_singleton.mp htable]
      exact keyed_empty _ _
  next => cases hopen

end Branch.Keyed

/-- The entries of an inline table have distinct keys. -/
theorem inlineEntries?_keyed {assignments : List (Key × Node)}
    (hvalues : ∀ a ∈ assignments, a.2.data.Keyed) {entries : Entries}
    (heq : inlineEntries? assignments = some entries) : entries.Keyed := by
  have hfold : ∀ {as : List (Key × Node)} {b b' : Branch Node}, (∀ a ∈ as, a.2.data.Keyed) →
      b.Keyed → as.foldlM (fun (b : Branch Node) (k, v) => b.set? k v) b = some b' →
      b'.Keyed := by
    intro as
    induction as with
    | nil =>
        intro b b' _ h heq
        obtain rfl := Option.some.inj heq
        exact h
    | cons a as ih =>
        intro b b' has h heq
        rw [List.foldlM_cons, Option.bind_eq_bind, Option.bind_eq_some_iff] at heq
        obtain ⟨b₁, hset, hrest⟩ := heq
        exact ih (fun a' ha => has a' (List.mem_cons_of_mem a ha))
          (h.set? (has a List.mem_cons_self) hset) hrest
  obtain ⟨b, hb, rfl⟩ := Option.map_eq_some_iff.mp heq
  exact hfold hvalues (Branch.keyed_empty _ _) hb

/-! ## §3. What is read. -/

/-- A reader of values whose keys are distinct. -/
def ReadsKeyed (value : Reader Node) : Prop :=
  ∀ cs v r, value cs = some (v, r) → v.data.Keyed

section Reader

variable {value : Reader Node}

/-- The items of an array are what the reader of values makes of them. -/
theorem items?_keyed (hvalue : ReadsKeyed value) {n : Nat} {cs r : List Char}
    {items : List Node} (heq : items? value n cs = some (items, r)) :
    ∀ item ∈ items, item.data.Keyed := by
  induction n generalizing cs items with
  | zero => cases heq
  | succ n ih =>
      rw [items?] at heq
      split at heq
      · cases heq
        exact fun item hitem => absurd hitem List.not_mem_nil
      · split at heq
        · cases heq
        next v rest hv =>
          have hhead := hvalue _ _ _ hv
          split at heq
          · obtain ⟨⟨more, r'⟩, hmore, heq⟩ := Option.map_eq_some_iff.mp heq
            cases heq
            intro item hitem
            rcases List.mem_cons.mp hitem with rfl | hitem
            · exact hhead
            · exact ih hmore item hitem
          · cases heq
            intro item hitem
            rw [List.mem_singleton.mp hitem]
            exact hhead
          · cases heq

theorem assignment?_keyed (hvalue : ReadsKeyed value) {cs r : List Char} {a : Key × Node}
    (heq : assignment? value cs = some (a, r)) : a.2.data.Keyed := by
  rw [assignment?] at heq
  split at heq
  · obtain ⟨⟨v, r'⟩, hv, heq⟩ := Option.map_eq_some_iff.mp heq
    cases heq
    exact hvalue _ _ _ hv
  · cases heq

/-- The assignments of an inline table are what the reader of values makes of them. -/
theorem assignments?_keyed (hvalue : ReadsKeyed value) {n : Nat} {cs r : List Char}
    {as : List (Key × Node)} (heq : assignments? value n cs = some (as, r)) :
    ∀ a ∈ as, a.2.data.Keyed := by
  induction n generalizing cs as with
  | zero => cases heq
  | succ n ih =>
      rw [assignments?] at heq
      split at heq
      · cases heq
      next a rest ha =>
        have hhead := assignment?_keyed hvalue ha
        split at heq
        · obtain ⟨⟨more, r'⟩, hmore, heq⟩ := Option.map_eq_some_iff.mp heq
          cases heq
          intro a' ha'
          rcases List.mem_cons.mp ha' with rfl | ha'
          · exact hhead
          · exact ih hmore a' ha'
        · cases heq
          intro a' ha'
          rw [List.mem_singleton.mp ha']
          exact hhead
        · cases heq

theorem tableEntries?_keyed (hvalue : ReadsKeyed value) {cs r : List Char} {entries : Entries}
    (heq : tableEntries? value cs = some (entries, r)) : entries.Keyed := by
  rw [tableEntries?] at heq
  split at heq
  · cases heq
    exact Branch.keyed_empty .written none
  · split at heq
    · cases heq
    next as rest has =>
      obtain ⟨entries', hentries, heq⟩ := Option.map_eq_some_iff.mp heq
      cases heq
      exact inlineEntries?_keyed (assignments?_keyed hvalue has) hentries

end Reader

theorem dataOfItems_eq (items : List Node) : dataOfItems items = items.map Node.data := by
  induction items with
  | nil => rfl
  | cons item items ih =>
      rw [dataOfItems, ih]
      rfl

/-- A value that holds no other has no keys at all. -/
theorem plainValue?_keyed : ReadsKeyed plainValue? := by
  intro cs v r heq
  obtain ⟨⟨⟨a, e⟩, r'⟩, -, heq⟩ := Option.map_eq_some_iff.mp heq
  cases heq
  exact .atom a

/-- **A value** has distinct keys at every depth. -/
theorem value?_keyed (n : Nat) : ReadsKeyed (value? n) := by
  induction n with
  | zero => exact plainValue?_keyed
  | succ n ih =>
      intro cs v r heq
      unfold value? at heq
      split at heq
      · obtain ⟨⟨items, r'⟩, hitems, heq⟩ := Option.map_eq_some_iff.mp heq
        cases heq
        refine .array rfl (fun item hitem => ?_)
        rw [dataOfItems_eq] at hitem
        obtain ⟨node, hnode, rfl⟩ := List.mem_map.mp hitem
        exact items?_keyed ih hitems node hnode
      · obtain ⟨⟨entries, r'⟩, hentries, heq⟩ := Option.map_eq_some_iff.mp heq
        cases heq
        exact keyed_table_iff.mpr (tableEntries?_keyed ih hentries)
      · exact plainValue?_keyed _ _ _ heq

/-- The keys of what a statement sets are distinct. -/
def Statement.Keyed : Statement → Prop
  | .header _ _ | .element _ _ => True
  | .entry _ v => v.data.Keyed

theorem statement?_keyed {cs r : List Char} {s : Statement}
    (heq : statement? cs = some (s, r)) : s.Keyed := by
  unfold statement? at heq
  split at heq
  · split at heq
    · cases heq
      trivial
    · cases heq
  · split at heq
    · cases heq
      trivial
    · cases heq
  · obtain ⟨⟨⟨k, v⟩, r'⟩, ha, heq⟩ := Option.map_eq_some_iff.mp heq
    cases heq
    exact assignment?_keyed (value?_keyed _) ha

theorem statements_keyed {n : Nat} {cs : List Char} {ss : List Statement}
    (heq : statements n cs = .ok ss) : ∀ s ∈ ss, s.Keyed := by
  induction n generalizing cs ss with
  | zero => cases heq
  | succ n ih =>
      rw [statements] at heq
      split at heq
      · cases heq
        exact fun s hs => absurd hs List.not_mem_nil
      · split at heq
        · exact ih heq
        · split at heq
          · cases heq
          next s rest hs =>
            split at heq
            · cases heq
            next r hr =>
              obtain ⟨more, hmore, rfl⟩ := map_eq_ok_iff.mp heq
              intro s' hs'
              rcases List.mem_cons.mp hs' with rfl | hs'
              · exact statement?_keyed hs
              · exact ih hmore s' hs'

/-! ## §4. Documents. -/

namespace Draft

/-- **One statement** keeps keys distinct. -/
theorem step?_keyed {d d' : Draft} (h : d.document.Keyed) {s : Statement} (hs : s.Keyed)
    (heq : d.step? s = some d') : d'.document.Keyed := by
  cases s with
  | header k e =>
      obtain ⟨document, hopen, rfl⟩ := Option.map_eq_some_iff.mp heq
      exact h.openTable? hopen
  | element k e =>
      obtain ⟨document, hopen, rfl⟩ := Option.map_eq_some_iff.mp heq
      exact h.openElement? hopen
  | entry k v =>
      obtain ⟨document, hset, rfl⟩ := Option.map_eq_some_iff.mp heq
      exact descend_keyed (fun b b' hb hb' => hb.set? hs hb') h hset

/-- **A list of statements** keeps keys distinct. -/
theorem run_keyed {d d' : Draft} (h : d.document.Keyed) {ss : List Statement}
    (hss : ∀ s ∈ ss, s.Keyed) (heq : ss.foldlM Draft.step d = .ok d') : d'.document.Keyed := by
  induction ss generalizing d with
  | nil =>
      cases heq
      exact h
  | cons s ss ih =>
      rw [List.foldlM_cons, bind_eq_ok_iff] at heq
      obtain ⟨d₁, hstep, hrest⟩ := heq
      have hkeyed : d₁.document.Keyed := by
        unfold step at hstep
        split at hstep
        next hs =>
          cases hstep
          exact step?_keyed h (hss s List.mem_cons_self) hs
        next => cases hstep
      exact ih hkeyed (fun s' hs' => hss s' (List.mem_cons_of_mem s hs')) hrest

end Draft

theorem read_keyed {text : String} {d : Document} (heq : read text = .ok d) : d.Keyed := by
  obtain ⟨ss, hss, hbuilt⟩ := bind_eq_ok_iff.mp heq
  obtain ⟨d', hrun, rfl⟩ := map_eq_ok_iff.mp hbuilt
  exact Draft.run_keyed (Branch.keyed_empty _ _) (statements_keyed hss) hrun

/-- **A KEY IS SET AT MOST ONCE**: whatever text a table is read of, every table in it
has each of its keys once. -/
theorem keyed_of_parse? {text : String} {t : Table} (h : parse? text = some t) :
    (Value.table t).Keyed := by
  obtain ⟨d, hd, rfl⟩ := Option.map_eq_some_iff.mp h
  exact d.keyed_iff.mp (read_keyed (toOption_eq_some_iff.mp hd))

/-! ## §5. Values that say the same. -/

theorem keyed_table {entries : Table} (h : (Value.table entries).Keyed) :
    (entries.map Prod.fst).Nodup ∧ ∀ entry ∈ entries, entry.2.Keyed := by
  cases h with
  | array hv => cases hv
  | table hkeys hentries => exact ⟨hkeys, hentries⟩

namespace Value

/-- A value says the same as itself. -/
theorem alike_refl (v : Value) : v.Alike v := by
  match v with
  | .atom a => exact .atom a
  | .array items =>
      refine .array rfl rfl rfl (fun i a b ha hb => ?_)
      have hmem := List.mem_of_getElem? ha
      obtain rfl : a = b := Option.some.inj (ha.symm.trans hb)
      exact alike_refl a
  | .series tables =>
      refine .array rfl rfl rfl (fun i a b ha hb => ?_)
      have hmem := List.mem_of_getElem? ha
      obtain rfl : a = b := Option.some.inj (ha.symm.trans hb)
      exact alike_refl a
  | .table entries =>
      refine .table (fun key => rfl) (fun key a b ha hb => ?_)
      have hmem := mem_of_lookup_eq_some ha
      obtain rfl : a = b := Option.some.inj (ha.symm.trans hb)
      exact alike_refl a
termination_by sizeOf v
decreasing_by
  all_goals simp_wf
  · have := List.sizeOf_lt_of_mem hmem
    omega
  · have := List.sizeOf_lt_of_mem hmem
    omega
  · have := List.sizeOf_lt_of_mem hmem
    simp at this
    omega

namespace Alike

theorem symm {v w : Value} (h : v.Alike w) : w.Alike v := by
  induction h with
  | atom a => exact .atom a
  | array hv hw hlength _ ih =>
      exact .array hw hv hlength.symm (fun i a b ha hb => ih i b a hb ha)
  | table hkeys _ ih =>
      exact .table (fun key => (hkeys key).symm) (fun key a b ha hb => ih key b a hb ha)

variable {t u : Table}

/-- **What stands under a key** in one table stands under it in the other. -/
theorem lookup (h : (Value.table t).Alike (.table u)) {key : String} {b : Value}
    (hb : u.lookup key = some b) : ∃ a, t.lookup key = some a ∧ a.Alike b := by
  cases h with
  | array hv => cases hv
  | table hkeys hentries =>
      have hsome := hkeys key
      rw [hb] at hsome
      obtain ⟨a, ha⟩ := Option.isSome_iff_exists.mp hsome
      exact ⟨a, ha, hentries key a b ha hb⟩

/-- Tables that say the same have the same keys. -/
theorem mem_keys (h : (Value.table t).Alike (.table u)) {key : String}
    (hmem : key ∈ u.map Prod.fst) : key ∈ t.map Prod.fst := by
  rw [mem_keys_iff] at hmem ⊢
  obtain ⟨b, hb⟩ := Option.isSome_iff_exists.mp hmem
  obtain ⟨a, ha, -⟩ := h.lookup hb
  rw [ha]
  rfl

/-- A table says the same as a table only. -/
theorem exists_table {v : Value} (h : v.Alike (.table u)) : ∃ t, v = .table t := by
  cases h with
  | array _ hw => cases hw
  | table => exact ⟨_, rfl⟩

/-- An atom says the same as itself only. -/
theorem eq_atom {v : Value} {a : Atom} (h : v.Alike (.atom a)) : v = .atom a := by
  cases h with
  | atom => rfl
  | array _ hw => cases hw

/-- **The order of keys says nothing.** -/
theorem of_perm (h : t.Perm u) (hkeyed : (Value.table t).Keyed) :
    (Value.table t).Alike (.table u) := by
  have hkeys : ∀ key, (t.lookup key).isSome = (u.lookup key).isSome := by
    intro key
    rw [Bool.eq_iff_iff, ← mem_keys_iff, ← mem_keys_iff]
    exact (h.map Prod.fst).mem_iff
  refine .table hkeys (fun key a b ha hb => ?_)
  have hb' := h.symm.subset (mem_of_lookup_eq_some hb)
  rw [eq_of_mem_of_mem (keyed_table hkeyed).1 (mem_of_lookup_eq_some ha) hb']
  exact alike_refl b

end Alike

end Value

end JitTarget.Toml
