/-
  TileEvents.Proofs.Ron.Reading
  ─────────────────────────────
  **VALUES ARE READ AS THEY WERE WRITTEN.**

  A value is written in three steps, each of which is undone on its own:

      value  ──trees──▸  trees  ──treesTokens──▸  tokens  ──spellAll──▸  text

  The class of values is the one that the formats here are written with:
  natural numbers, plain words, text, lists, and tuples and records that have
  no name and are not empty.  Its definition follows the constructors, and so
  do the inductions.

    • `forest?_treesTokens` — tokens to trees, for all trees;
    • `items?_join`         — items with commas between them;
    • `ofTrees?_trees`      — trees to a value, as deep as it nests;
    • `Value.standing`      — the tokens of a value keep apart;
    • `Document.read?_write` — all three together.
-/
import TileEvents.Proofs.Ron.Scanning
import TileEvents.Ron.Document

namespace TileEvents.Ron

/-! ## §1. Brackets. -/

theorem treesTokens_append (ts us : List Tree) :
    treesTokens (ts ++ us) = treesTokens ts ++ treesTokens us := by
  induction ts with
  | nil => rfl
  | cons t ts ih =>
      show t.tokens ++ treesTokens (ts ++ us) = t.tokens ++ treesTokens ts ++ treesTokens us
      rw [ih, List.append_assoc]

mutual

/-- A tree is put behind those before it, whatever is open around it. -/
theorem forestWithin?_tree (t : Tree) (stack : List (Bracket × List Tree)) (done : List Tree)
    (rest : List Token) :
    forestWithin? stack done (t.tokens ++ rest) = forestWithin? stack (t :: done) rest := by
  cases t with
  | leaf l =>
      show forestWithin? stack done (.leaf l :: rest) = _
      rw [forestWithin?]
  | group b inside =>
      have htokens : (Tree.group b inside).tokens ++ rest
          = .opening b :: (treesTokens inside ++ .closing b :: rest) := by
        simp [Tree.tokens]
      rw [htokens, forestWithin?, forestWithin?_trees inside, forestWithin?]
      simp

/-- So are several trees. -/
theorem forestWithin?_trees (ts : List Tree) (stack : List (Bracket × List Tree))
    (done : List Tree) (rest : List Token) :
    forestWithin? stack done (treesTokens ts ++ rest)
      = forestWithin? stack (ts.reverse ++ done) rest := by
  cases ts with
  | nil => rfl
  | cons t ts =>
      show forestWithin? stack done (t.tokens ++ treesTokens ts ++ rest) = _
      rw [List.append_assoc, forestWithin?_tree t, forestWithin?_trees ts]
      simp

end

/-- **The tokens of trees make up these trees.** -/
theorem forest?_treesTokens (ts : List Tree) : forest? (treesTokens ts) = some ts := by
  have h := forestWithin?_trees ts [] [] []
  rw [List.append_nil] at h
  unfold forest?
  rw [h, forestWithin?]
  simp

/-! ## §2. Commas. -/

/-- Whether a tree is a comma. -/
def Tree.isComma : Tree → Bool
  | .leaf .comma => true
  | _ => false

theorem cutAtCommas_cons {t : Tree} (ht : t.isComma = false) {ts item : List Tree}
    {items : List (List Tree)} (h : cutAtCommas ts = item :: items) :
    cutAtCommas (t :: ts) = (t :: item) :: items := by
  unfold cutAtCommas
  split
  next => simp_all
  next hcomma => simp_all [Tree.isComma]
  next => simp_all

/-- Trees without a comma belong to the first item. -/
theorem cutAtCommas_append {ts us item : List Tree} {items : List (List Tree)}
    (hts : ∀ t ∈ ts, t.isComma = false) (h : cutAtCommas us = item :: items) :
    cutAtCommas (ts ++ us) = (ts ++ item) :: items := by
  induction ts with
  | nil => exact h
  | cons t ts ih =>
      exact cutAtCommas_cons (hts t List.mem_cons_self)
        (ih fun u hu => hts u (List.mem_cons_of_mem t hu))

/-- An item that commas can tell from others. -/
def IsItem (item : List Tree) : Prop := item ≠ [] ∧ ∀ t ∈ item, t.isComma = false

/-- Items are found again between their commas. -/
theorem cutAtCommas_join {items : List (List Tree)} (hne : items ≠ [])
    (h : ∀ item ∈ items, IsItem item) : cutAtCommas (joinWithCommas items) = items := by
  induction items with
  | nil => exact absurd rfl hne
  | cons item items ih =>
      have hitem := (h item List.mem_cons_self).2
      cases items with
      | nil =>
          have hnothing : cutAtCommas [] = [[]] := rfl
          have hcut := cutAtCommas_append hitem hnothing
          rw [List.append_nil] at hcut
          exact hcut
      | cons next items =>
          have hrest := ih (by simp) fun i hi => h i (List.mem_cons_of_mem item hi)
          have hcomma : cutAtCommas (.leaf .comma :: joinWithCommas (next :: items))
              = [] :: next :: items := by
            rw [cutAtCommas, hrest]
          have hcut := cutAtCommas_append hitem hcomma
          rw [List.append_nil] at hcut
          exact hcut

/-- Items that are not empty are all kept. -/
theorem dropLastEmpty_of_items {items : List (List Tree)} (h : ∀ item ∈ items, IsItem item) :
    dropLastEmpty items = items := by
  induction items with
  | nil => rfl
  | cons item items ih =>
      cases items with
      | nil =>
          have hitem := (h item List.mem_cons_self).1
          simp [dropLastEmpty, hitem]
      | cons next items =>
          show item :: dropLastEmpty (next :: items) = _
          rw [ih fun i hi => h i (List.mem_cons_of_mem item hi)]

/-- **Items with commas between them are these items.** -/
theorem items?_join {items : List (List Tree)} (h : ∀ item ∈ items, IsItem item) :
    items? (joinWithCommas items) = some items := by
  cases items with
  | nil => rfl
  | cons item items =>
      have hcut := cutAtCommas_join (List.cons_ne_nil item items) h
      have hany : (item :: items).any List.isEmpty = false := by
        rw [List.any_eq_false]
        intro i hi
        simpa using (h i hi).1
      simp only [items?, hcut, dropLastEmpty_of_items h, hany]
      rfl

/-! ## §3. Plain values. -/

namespace Value

mutual

/-- **Whether a value is of the kinds that documents are written with here.** -/
def isPlain : Value → Bool
  | unit | text _ => true
  | word name => isPlainWord name && name != "Some"
  | number (.integer (.ofNat _) none) => true
  | list items => itemsPlain items
  | tuple none items => !items.isEmpty && itemsPlain items
  | record none fields => !fields.isEmpty && fieldsPlain fields
  | _ => false

/-- Whether items are plain. -/
def itemsPlain : List Value → Bool
  | [] => true
  | v :: vs => v.isPlain && itemsPlain vs

/-- Whether fields are plain. -/
def fieldsPlain : List (String × Value) → Bool
  | [] => true
  | (name, v) :: fs => isPlainWord name && v.isPlain && fieldsPlain fs

end

/-- A plain value is a single tree. -/
theorem trees_of_isPlain {v : Value} (h : v.isPlain = true) :
    ∃ t, v.trees = [t] ∧ t.isComma = false := by
  match v, h with
  | unit, _ | text _, _ | word _, _ | number (.integer (.ofNat _) none), _ => exact ⟨_, rfl, rfl⟩
  | list items, _ => exact ⟨_, rfl, rfl⟩
  | tuple none items, _ => exact ⟨_, rfl, rfl⟩
  | record none fields, _ => exact ⟨_, rfl, rfl⟩

theorem isItem_trees {v : Value} (h : v.isPlain = true) : IsItem v.trees := by
  obtain ⟨t, ht, hcomma⟩ := trees_of_isPlain h
  rw [ht]
  refine ⟨by simp, ?_⟩
  intro u hu
  rw [List.mem_singleton.1 hu]
  exact hcomma

theorem isItem_of_itemsPlain {vs : List Value} (h : itemsPlain vs = true) :
    ∀ item ∈ itemsTrees vs, IsItem item := by
  induction vs with
  | nil => intro item hitem; cases hitem
  | cons v vs ih =>
      simp only [itemsPlain, Bool.and_eq_true] at h
      intro item hitem
      rcases List.mem_cons.1 hitem with rfl | hitem
      · exact isItem_trees h.1
      · exact ih h.2 item hitem

theorem isItem_of_fieldsPlain {fs : List (String × Value)} (h : fieldsPlain fs = true) :
    ∀ item ∈ fieldsTrees fs, IsItem item ∧ beginsField item = true := by
  induction fs with
  | nil => intro item hitem; cases hitem
  | cons f fs ih =>
      obtain ⟨name, v⟩ := f
      simp only [fieldsPlain, Bool.and_eq_true] at h
      intro item hitem
      rcases List.mem_cons.1 hitem with rfl | hitem
      · refine ⟨⟨by simp, ?_⟩, rfl⟩
        intro t ht
        rcases List.mem_cons.1 ht with rfl | ht
        · rfl
        rcases List.mem_cons.1 ht with rfl | ht
        · rfl
        exact (isItem_trees h.1.2).2 t ht
      · exact ih h.2 item hitem

/-- Plain items do not look like fields. -/
theorem beginsField_items {v : Value} {vs : List Value} (h : v.isPlain = true) :
    beginsField (joinWithCommas (itemsTrees (v :: vs))) = false := by
  obtain ⟨t, ht, -⟩ := trees_of_isPlain h
  cases vs with
  | nil =>
      show beginsField v.trees = false
      rw [ht]
      unfold beginsField
      split <;> simp_all
  | cons w vs =>
      show beginsField (v.trees ++ .leaf .comma :: _) = false
      rw [ht, List.singleton_append]
      unfold beginsField
      split <;> simp_all

/-- Fields do. -/
theorem beginsField_fields (name : String) (v : Value) (fs : List (String × Value)) :
    beginsField (joinWithCommas (fieldsTrees ((name, v) :: fs))) = true := by
  cases fs <;> rfl

/-! ## §4. Trees of values. -/

variable (d : Dialect)

mutual

/-- **The trees of a plain value are that value**, read as deep as it nests. -/
theorem ofTrees?_trees (v : Value) (h : v.isPlain = true) :
    ∀ depth, v.levels ≤ depth → ofTrees? d depth v.trees = some v := by
  intro depth hdepth
  match v, h with
  | unit, _ | text _, _ | number (.integer (.ofNat _) none), _ =>
      simp [trees, ofTrees?, ofLeaf?]
  | word name, h =>
      simp only [isPlain, Bool.and_eq_true, bne_iff_ne, ne_eq] at h
      simp [trees, ofTrees?, ofLeaf?, h.2]
  | list items, h =>
      simp only [levels] at hdepth
      obtain ⟨depth, rfl⟩ : ∃ k, depth = k + 1 := ⟨depth - 1, by omega⟩
      have hitems := mapM_itemsTrees items h depth (by omega)
      simp only [trees, ofTrees?, items?_join (isItem_of_itemsPlain h), Option.bind_some, hitems,
        Option.map_some]
  | tuple none items, h =>
      simp only [isPlain, Bool.and_eq_true] at h
      simp only [levels] at hdepth
      obtain ⟨depth, rfl⟩ : ∃ k, depth = k + 1 := ⟨depth - 1, by omega⟩
      have hitems := mapM_itemsTrees items h.2 depth (by omega)
      cases items with
      | nil => simp at h
      | cons v vs =>
          have hv : v.isPlain = true := by
            have h := h.2
            simp only [itemsPlain, Bool.and_eq_true] at h
            exact h.1
          simp only [trees, nameTrees, List.nil_append, ofTrees?, round?,
            items?_join (isItem_of_itemsPlain h.2), beginsField_items hv, hitems]
          rfl
  | record none fields, h =>
      simp only [isPlain, Bool.and_eq_true] at h
      simp only [levels] at hdepth
      obtain ⟨depth, rfl⟩ : ∃ k, depth = k + 1 := ⟨depth - 1, by omega⟩
      have hfields := mapM_fieldsTrees fields h.2 depth (by omega)
      have hitems := isItem_of_fieldsPlain h.2
      have hall : (fieldsTrees fields).all beginsField = true :=
        List.all_eq_true.2 fun item hitem => (hitems item hitem).2
      cases fields with
      | nil => simp at h
      | cons f fs =>
          obtain ⟨name, v⟩ := f
          simp only [trees, nameTrees, List.nil_append, ofTrees?, round?,
            items?_join (fun item hitem => (hitems item hitem).1), beginsField_fields, hall,
            hfields]
          rfl

/-- The trees of plain items are these items. -/
theorem mapM_itemsTrees (vs : List Value) (h : itemsPlain vs = true) :
    ∀ depth, itemsLevels vs ≤ depth + 1 → (itemsTrees vs).mapM (ofTrees? d depth) = some vs := by
  intro depth hdepth
  match vs, h with
  | [], _ => rfl
  | v :: vs, h =>
      simp only [itemsPlain, Bool.and_eq_true] at h
      simp only [itemsLevels] at hdepth
      have hv := ofTrees?_trees v h.1 depth (by omega)
      have hvs := mapM_itemsTrees vs h.2 depth (by omega)
      simp [itemsTrees, List.mapM_cons, hv, hvs]

/-- The trees of plain fields are these fields. -/
theorem mapM_fieldsTrees (fs : List (String × Value)) (h : fieldsPlain fs = true) :
    ∀ depth, fieldsLevels fs ≤ depth + 1 →
      (fieldsTrees fs).mapM (field? (ofTrees? d depth)) = some fs := by
  intro depth hdepth
  match fs, h with
  | [], _ => rfl
  | (name, v) :: fs, h =>
      simp only [fieldsPlain, Bool.and_eq_true] at h
      simp only [fieldsLevels] at hdepth
      have hv := ofTrees?_trees v h.1.2 depth (by omega)
      have hfs := mapM_fieldsTrees fs h.2 depth (by omega)
      simp [fieldsTrees, List.mapM_cons, field?, hv, hfs]

end

end Value

/-! ## §5. Tokens that keep apart. -/

/-- **Tokens that can stand between any others**: between a bracket or a mark and a mark or a
bracket. -/
structure Standing (ts : List Token) : Prop where
  plain : ∀ t ∈ ts, t.isPlain = true
  nonempty : ts ≠ []
  apart : ts.IsChain fun t u => t.parts u = true
  opens : ∀ t ∈ ts.head?, Token.parts (.opening .round) t = true
  closes : ∀ t ∈ ts.getLast?, ∀ u, u.ends = true → t.parts u = true

namespace Standing

theorem single {t : Token} (hplain : t.isPlain = true)
    (hopens : Token.parts (.opening .round) t = true)
    (hcloses : ∀ u, u.ends = true → t.parts u = true) : Standing [t] where
  plain u hu := by rwa [List.mem_singleton.1 hu]
  nonempty := List.cons_ne_nil t []
  apart := List.IsChain.singleton t
  opens u hu := by
    rw [List.head?_cons, Option.mem_some_iff] at hu
    rwa [← hu]
  closes u hu := by
    rw [List.getLast?_singleton, Option.mem_some_iff] at hu
    rwa [← hu]

theorem comma : Standing [.leaf .comma] := single rfl rfl fun _ _ => rfl

theorem colon : Standing [.leaf .colon] := single rfl rfl fun _ _ => rfl

theorem word {name : String} (h : isPlainWord name = true) : Standing [.leaf (.word name)] :=
  single h rfl fun _ hu => hu

/-- Tokens stand behind others where the first of them can. -/
theorem append {ts us : List Token} (hts : Standing ts) (hus : Standing us)
    (h : ∀ t ∈ ts.getLast?, ∀ u ∈ us.head?, t.parts u = true) : Standing (ts ++ us) where
  plain t ht := (List.mem_append.1 ht).elim (hts.plain t) (hus.plain t)
  nonempty := List.append_ne_nil_of_left_ne_nil hts.nonempty us
  apart := List.isChain_append.2 ⟨hts.apart, hus.apart, h⟩
  opens := by
    rw [List.head?_append_of_ne_nil ts hts.nonempty]
    exact hts.opens
  closes := by
    rw [List.getLast?_append_of_ne_nil ts hus.nonempty]
    exact hus.closes

/-- Tokens stand on both sides of a comma or a colon. -/
theorem between {ts us : List Token} {m : Token} (hts : Standing ts) (hus : Standing us)
    (hm : Standing [m]) (hends : m.ends = true) (hparts : ∀ u, m.parts u = true) :
    Standing (ts ++ m :: us) := by
  have hright : Standing ([m] ++ us) := by
    refine append hm hus ?_
    intro t ht u _
    rw [List.getLast?_singleton, Option.mem_some_iff] at ht
    rw [← ht]
    exact hparts u
  refine append hts hright ?_
  intro t ht u hu
  rw [List.head?_cons, Option.mem_some_iff] at hu
  rw [← hu]
  exact hts.closes t ht m hends

/-- Tokens stand between brackets. -/
theorem group {ts : List Token} (b : Bracket) (h : Standing ts) :
    Standing (.opening b :: (ts ++ [.closing b])) where
  plain t ht := by
    rcases List.mem_cons.1 ht with rfl | ht
    · rfl
    rcases List.mem_append.1 ht with ht | ht
    · exact h.plain t ht
    · rw [List.mem_singleton.1 ht]
      rfl
  nonempty := List.cons_ne_nil _ _
  apart := by
    refine List.isChain_cons.2 ⟨?_, List.isChain_append.2 ⟨h.apart, .singleton _, ?_⟩⟩
    · intro u hu
      rw [List.head?_append_of_ne_nil ts h.nonempty] at hu
      cases b with
      | round => exact h.opens u hu
      | square | curly => rfl
    · intro t ht u hu
      rw [List.head?_cons, Option.mem_some_iff] at hu
      rw [← hu]
      exact h.closes t ht (.closing b) rfl
  opens u hu := by
    rw [List.head?_cons, Option.mem_some_iff] at hu
    rw [← hu]
    rfl
  closes u hu := by
    rw [← List.cons_append, List.getLast?_append_of_ne_nil _ (List.cons_ne_nil _ _),
      List.getLast?_singleton, Option.mem_some_iff] at hu
    rw [← hu]
    intro _ _
    rfl

/-- Square brackets stand with nothing between them. -/
theorem square : Standing [.opening .square, .closing .square] where
  plain := by decide
  nonempty := by decide
  apart := by decide
  opens := by decide
  closes := by
    intro t ht _ _
    obtain rfl : Token.closing .square = t := Option.mem_some_iff.1 ht
    rfl

/-- Items stand with commas between them. -/
theorem join {items : List (List Tree)} (hne : items ≠ [])
    (h : ∀ item ∈ items, Standing (treesTokens item)) :
    Standing (treesTokens (joinWithCommas items)) := by
  induction items with
  | nil => exact absurd rfl hne
  | cons item items ih =>
      have hitem := h item List.mem_cons_self
      cases items with
      | nil => exact hitem
      | cons next items =>
          have hrest := ih (by simp) fun i hi => h i (List.mem_cons_of_mem item hi)
          show Standing (treesTokens (item ++ .leaf .comma :: joinWithCommas (next :: items)))
          rw [treesTokens_append]
          exact between hitem hrest comma rfl fun _ => rfl

end Standing

/-- The tokens of brackets and what stands between them. -/
theorem treesTokens_group (b : Bracket) (inside : List Tree) :
    treesTokens [.group b inside] = .opening b :: (treesTokens inside ++ [.closing b]) := by
  simp [treesTokens, Tree.tokens]

namespace Value

mutual

/-- **The tokens of a plain value keep apart.** -/
theorem standing (v : Value) (h : v.isPlain = true) : Standing (treesTokens v.trees) := by
  match v, h with
  | unit, _ | text _, _ => exact .single rfl rfl fun _ _ => rfl
  | word name, h =>
      simp only [isPlain, Bool.and_eq_true] at h
      exact .word h.1
  | number (.integer (.ofNat _) none), _ => exact .single rfl rfl fun _ hu => hu
  | list [], _ => exact .square
  | list (v :: vs), h =>
      rw [trees, treesTokens_group]
      exact .group .square (.join (List.cons_ne_nil _ _) (itemsStanding (v :: vs) h))
  | tuple none [], h => cases h
  | tuple none (v :: vs), h =>
      rw [trees, nameTrees, List.nil_append, treesTokens_group]
      exact .group .round (.join (List.cons_ne_nil _ _) (itemsStanding (v :: vs) h))
  | record none [], h => cases h
  | record none ((name, v) :: fs), h =>
      rw [trees, nameTrees, List.nil_append, treesTokens_group]
      exact .group .round (.join (List.cons_ne_nil _ _) (fieldsStanding ((name, v) :: fs) h))

/-- So do those of every item, -/
theorem itemsStanding (vs : List Value) (h : itemsPlain vs = true) :
    ∀ item ∈ itemsTrees vs, Standing (treesTokens item) := by
  match vs, h with
  | [], _ => intro item hitem; cases hitem
  | v :: vs, h =>
      simp only [itemsPlain, Bool.and_eq_true] at h
      intro item hitem
      rcases List.mem_cons.1 hitem with rfl | hitem
      · exact standing v h.1
      · exact itemsStanding vs h.2 item hitem

/-- and those of every field. -/
theorem fieldsStanding (fs : List (String × Value)) (h : fieldsPlain fs = true) :
    ∀ item ∈ fieldsTrees fs, Standing (treesTokens item) := by
  match fs, h with
  | [], _ => intro item hitem; cases hitem
  | (name, v) :: fs, h =>
      simp only [fieldsPlain, Bool.and_eq_true] at h
      intro item hitem
      rcases List.mem_cons.1 hitem with rfl | hitem
      · exact .between (.word h.1.1) (standing v h.1.2) .colon rfl fun _ => rfl
      · exact fieldsStanding fs h.2 item hitem

end

end Value

/-! ## §6. Documents. -/

/-- A single tree is no attribute. -/
theorem readAttributes?_single (d : Dialect) (t : Tree) : readAttributes? d [t] = some (d, [t]) := by
  unfold readAttributes?
  split
  next h => simp at h
  next => rfl

/-- **A plain value that does not nest too deep is read as it was written.** -/
theorem Document.read?_write {v : Value} (h : v.isPlain = true)
    (hlevels : v.levels ≤ Value.maxLevels) : Document.read? v.write = some ⟨.plain, v⟩ := by
  have hstanding := v.standing h
  have hscan : scan v.write.toList = some (treesTokens v.trees) :=
    scan_spellAll hstanding.plain hstanding.apart
  have hattributes : readAttributes? .plain v.trees = some (.plain, v.trees) := by
    obtain ⟨t, ht, -⟩ := Value.trees_of_isPlain h
    rw [ht]
    exact readAttributes?_single .plain t
  have hvalue := Value.ofTrees?_trees .plain v h Value.maxLevels hlevels
  unfold Document.read?
  simp only [hscan, forest?_treesTokens, hattributes, hvalue, Option.bind_eq_bind,
    Option.bind_some, if_neg (Nat.not_lt.2 hlevels)]
  rfl

end TileEvents.Ron
