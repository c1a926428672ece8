import Workbench.Proofs.Grammar.Numbering
import Mathlib.Data.List.Nodup
/-!
# What the numbers of a grammar name

The element table is built by a walk of its own over the bodies of the rules,
which never looks at the numbers. Both are read here off one list of what is
in a body (`Element.sites`), so in a grammar that was built the entry of a
number is that of the rule or the element that has it (`Definition.entry?_id`,
`Definition.entry?_site`), and no two of them have the same.
-/

namespace Workbench

/-! ## Bodies -/

namespace Element

mutual

/-- **What is in a body**, in preorder: its elements, with the feature that is
assigned by each or around it. -/
def sites (feature : Option String) : Element → List (Option String × Element)
  | keyword id text => [(feature, keyword id text)]
  | terminal id index => [(feature, terminal id index)]
  | call id rule => [(feature, call id rule)]
  | crossRef id target index => [(feature, crossRef id target index)]
  | assign id name op value => (some name, assign id name op value) :: value.sites (some name)
  | seq id items => (feature, seq id items) :: sitesOf feature items
  | alt id items => (feature, alt id items) :: sitesOf feature items
  | repeated id cardinality body =>
    (feature, repeated id cardinality body) :: body.sites feature

/-- What is in several elements. -/
def sitesOf (feature : Option String) : List Element → List (Option String × Element)
  | [] => []
  | e :: es => e.sites feature ++ sitesOf feature es

end

/-- The shape of an element, and what it names. -/
def tag (g : Grammar) : Element → ElementTag
  | keyword _ text => .keyword text
  | terminal _ index => .terminal (g.terminalName index)
  | call _ rule => .ruleCall (g.ruleName rule)
  | crossRef _ target _ => .crossRef target.typeName
  | assign _ name _ _ => .assignment name
  | seq _ _ => .group
  | alt _ _ => .alternatives
  | repeated _ cardinality _ => .repeated cardinality

/-- The entry of an element of a rule at a site. -/
def entryAt (g : Grammar) (rule : ℕ) (site : Option String × Element) : TableEntry :=
  ⟨site.2.tag g, rule, site.1⟩

mutual

/-- The numbers of a body are those of what is in it. -/
theorem ids_eq_map_sites (feature : Option String) :
    ∀ (e : Element), e.ids = (e.sites feature).map fun site => site.2.id
  | keyword _ _ => rfl
  | terminal _ _ => rfl
  | call _ _ => rfl
  | crossRef _ _ _ => rfl
  | assign id name _ value => congrArg (id :: ·) (ids_eq_map_sites (some name) value)
  | seq id items => congrArg (id :: ·) (idsOf_eq_map_sitesOf feature items)
  | alt id items => congrArg (id :: ·) (idsOf_eq_map_sitesOf feature items)
  | repeated id _ body => congrArg (id :: ·) (ids_eq_map_sites feature body)

theorem idsOf_eq_map_sitesOf (feature : Option String) :
    ∀ (es : List Element), idsOf es = (sitesOf feature es).map fun site => site.2.id
  | [] => rfl
  | e :: es => by
    rw [idsOf, sitesOf, List.map_append, ids_eq_map_sites feature e,
      idsOf_eq_map_sitesOf feature es]

end

mutual

/-- The entries of a body are those of what is in it. -/
theorem entries_eq_map_sites (g : Grammar) (rule : ℕ) (feature : Option String) :
    ∀ (e : Element), e.entries g rule feature = (e.sites feature).map (entryAt g rule)
  | keyword _ _ => rfl
  | terminal _ _ => rfl
  | call _ _ => rfl
  | crossRef _ _ _ => rfl
  | assign _ name _ value => congrArg (List.cons _) (entries_eq_map_sites g rule (some name) value)
  | seq _ items => congrArg (List.cons _) (entriesOf_eq_map_sitesOf g rule feature items)
  | alt _ items => congrArg (List.cons _) (entriesOf_eq_map_sitesOf g rule feature items)
  | repeated _ _ body => congrArg (List.cons _) (entries_eq_map_sites g rule feature body)

theorem entriesOf_eq_map_sitesOf (g : Grammar) (rule : ℕ) (feature : Option String) :
    ∀ (es : List Element),
      entriesOf g rule feature es = (sitesOf feature es).map (entryAt g rule)
  | [] => rfl
  | e :: es => by
    rw [entriesOf, sitesOf, List.map_append, entries_eq_map_sites g rule feature e,
      entriesOf_eq_map_sitesOf g rule feature es]

end

end Element

/-! ## Grammars -/

/-- What has a number in a rule: the rule itself, or an element at a site. -/
abbrev Numbering := ElementId × TableEntry × Option (Option String × Element)

/-- **What has a number in a rule**, in preorder, with its entry. -/
def Rule.numberings (g : Grammar) (index : ℕ) (rule : Rule) : List Numbering :=
  (rule.id, ⟨.rule rule.name, index, none⟩, none) ::
    (rule.body.sites none).map fun site => (site.2.id, Element.entryAt g index site, some site)

/-- What has a number in rules whose first index is `index`. -/
def Rule.numberingsFrom (g : Grammar) (index : ℕ) (rules : List Rule) : List Numbering :=
  (rules.zipIdx index).flatMap fun (rule, i) => rule.numberings g i

namespace Rule

theorem numberingsFrom_cons (g : Grammar) (index : ℕ) (rule : Rule) (rules : List Rule) :
    numberingsFrom g index (rule :: rules) =
      rule.numberings g index ++ numberingsFrom g (index + 1) rules := rfl

theorem map_fst_numberingsFrom (g : Grammar) (index : ℕ) (rules : List Rule) :
    (numberingsFrom g index rules).map Prod.fst = rules.flatMap Rule.ids := by
  induction rules generalizing index with
  | nil => rfl
  | cons rule rules ih =>
    rw [numberingsFrom_cons, List.map_append, ih, List.flatMap_cons, Rule.ids,
      Element.ids_eq_map_sites none, numberings, List.map_cons, List.map_map]
    rfl

theorem map_entry_numberingsFrom (g : Grammar) (index : ℕ) (rules : List Rule) :
    (numberingsFrom g index rules).map (fun n => n.2.1) = Rule.entriesFrom g index rules := by
  induction rules generalizing index with
  | nil => rfl
  | cons rule rules ih =>
    rw [numberingsFrom_cons, List.map_append, ih, Rule.entriesFrom,
      Element.entries_eq_map_sites, numberings, List.map_cons, List.map_map]
    rfl

end Rule

namespace Definition

variable {d : Definition} {g : Grammar}

/-- The numbers of a grammar are given in the order of the table. -/
theorem getElem?_numberings (h : d.build = .ok g) {x : Numbering}
    (hx : x ∈ Rule.numberingsFrom g 0 g.rules.toList) :
    (Rule.numberingsFrom g 0 g.rules.toList)[x.1.index]? = some x := by
  obtain ⟨n, hn⟩ := List.mem_iff_getElem?.mp hx
  have hids := (Rule.map_fst_numberingsFrom g 0 g.rules.toList).trans (ids_eq_range h)
  have hid := congrArg (·[n]?) hids
  rw [List.getElem?_map, hn, List.getElem?_map, Option.map_some] at hid
  obtain ⟨m, hm, hmk⟩ := Option.map_eq_some_iff.mp hid.symm
  obtain ⟨_, hnm⟩ := List.getElem?_eq_some_iff.mp hm
  rw [List.getElem_range] at hnm
  rw [← hmk, ← hnm]
  exact hn

/-- **The table has the entry of everything that has a number.** -/
theorem entry?_numbering (h : d.build = .ok g) {x : Numbering}
    (hx : x ∈ Rule.numberingsFrom g 0 g.rules.toList) : g.table.entry? x.1 = some x.2.1 := by
  rw [ElementTable.entry?, Grammar.table, List.getElem?_toArray,
    ← Rule.map_entry_numberingsFrom, List.getElem?_map, getElem?_numberings h hx]
  rfl

variable {i j : ℕ} {rule rule' : Rule} {site site' : Option String × Element}

theorem mem_numberings (hrule : g.rules[i]? = some rule) {x : Numbering}
    (hx : x ∈ rule.numberings g i) : x ∈ Rule.numberingsFrom g 0 g.rules.toList := by
  refine List.mem_flatMap.mpr ⟨(rule, i), ?_, hx⟩
  rw [List.mem_zipIdx_iff_getElem?, Array.getElem?_toList]
  exact hrule

/-- **The entry of a rule.** -/
theorem entry?_id (h : d.build = .ok g) (hrule : g.rules[i]? = some rule) :
    g.table.entry? rule.id = some ⟨.rule rule.name, i, none⟩ :=
  entry?_numbering h (mem_numberings hrule List.mem_cons_self)

theorem site_mem_numberings (hrule : g.rules[i]? = some rule)
    (hsite : site ∈ rule.body.sites none) :
    (site.2.id, Element.entryAt g i site, some site) ∈ Rule.numberingsFrom g 0 g.rules.toList :=
  mem_numberings hrule (List.mem_cons_of_mem _ (List.mem_map.mpr ⟨site, hsite, rfl⟩))

/-- **The entry of an element**: its shape, its rule, and the feature that is
assigned by it or around it. -/
theorem entry?_site (h : d.build = .ok g) (hrule : g.rules[i]? = some rule)
    (hsite : site ∈ rule.body.sites none) :
    g.table.entry? site.2.id = some ⟨site.2.tag g, i, site.1⟩ :=
  entry?_numbering h (site_mem_numberings hrule hsite)

end Definition

/-! ## On the way -/

/-- **No other number is understood** than the one for no element and those of
the table. -/
theorem ElementTable.decode_eq_error (t : ElementTable) {raw : Int} (hnone : raw ≠ noElement)
    (hin : ∀ i, i < t.entries.size → raw ≠ encode (some ⟨i⟩)) : t.decode raw = .error ⟨raw⟩ := by
  rw [decode, if_neg hnone, if_neg]
  rintro ⟨hpos, hlt⟩
  exact hin raw.toNat hlt (Int.toNat_of_nonneg hpos).symm

end Workbench
