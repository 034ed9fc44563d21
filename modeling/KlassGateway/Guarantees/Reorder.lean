import KlassGateway.Db.Reorder
/-!
# Moving topics and contents

`reorder` looks for a neighbour with a smaller or a greater `order`, but every
`INSERT` writes zero.  So all rows of a reachable table are equal in `order`,
no row has a neighbour, and every move is refused as one beyond the edge.

* `Reachable.order_eq_zero`: the orders of a reachable table.
* `reorder_iff_atEdge`: a move does what it should exactly if it should be
  refused.
-/

namespace KlassGateway.Db.Admin

open Lib

namespace Ordered

variable {R G : Type} [DecidableEq G] (T : Ordered R G)

/-! ## What a move should do -/

/-- The keys of a group in the order in which they are listed. -/
def listedIds (group : G) (rows : List R) : List Uuid := (T.listing group rows).map T.id

/-- A row has changed places with the one next to it, and no other has moved. -/
def Exchanged (direction : String) (id : Uuid) (before after : List Uuid) : Prop :=
  ∃ front other back,
    direction = "up" ∧ before = front ++ other :: id :: back ∧
      after = front ++ id :: other :: back ∨
    direction = "down" ∧ before = front ++ id :: other :: back ∧
      after = front ++ other :: id :: back

/-- A row is the last one in this direction. -/
def AtEdge (direction : String) (id : Uuid) (listed : List Uuid) : Prop :=
  direction = "up" ∧ listed.head? = some id ∨ direction = "down" ∧ listed.getLast? = some id

/-- The other direction. -/
def opposite (direction : String) : String := if direction = "up" then "down" else "up"

/-- What a move of a row should do. -/
structure Reorders (direction : String) (now : DateTime) (rows : List R) (row : R) : Prop where
  moves : ∀ rows', T.reorder (T.id row) direction now rows = .ok rows' →
    Exchanged direction (T.id row) (T.listedIds (T.group row) rows)
      (T.listedIds (T.group row) rows')
  others : ∀ rows', T.reorder (T.id row) direction now rows = .ok rows' →
    ∀ group, group ≠ T.group row → T.listedIds group rows' = T.listedIds group rows
  orders : ∀ rows', T.reorder (T.id row) direction now rows = .ok rows' →
    (rows'.map T.order).Perm (rows.map T.order)
  restores : ∀ rows', T.reorder (T.id row) direction now rows = .ok rows' → ∀ later,
    ∃ restored, T.reorder (T.id row) (opposite direction) later rows' = .ok restored ∧
      T.listedIds (T.group row) restored = T.listedIds (T.group row) rows
  refuses : ∀ e, T.reorder (T.id row) direction now rows = .error e →
    AtEdge direction (T.id row) (T.listedIds (T.group row) rows)

/-! ## Reachable tables -/

variable {T}

/-- No row is before or after another in a table of equal orders. -/
theorem reorder_of_equal {id : Uuid} {direction : String} {now : DateTime} {rows : List R}
    {order : Int} (h : ∀ r ∈ rows, T.order r = order) :
    ∃ e, T.reorder id direction now rows = .error e := by
  unfold reorder
  cases hfind : Table.find T.id id rows with
  | none => exact ⟨_, rfl⟩
  | some current =>
    have hcurrent := h current (Table.find_mem hfind)
    have hlower : (rows.filter fun r => T.group r = T.group current ∧
        T.order r < T.order current) = [] := by
      rw [List.filter_eq_nil_iff]
      intro r hr
      simp [h r hr, hcurrent]
    have hhigher : (rows.filter fun r => T.group r = T.group current ∧
        T.order current < T.order r) = [] := by
      rw [List.filter_eq_nil_iff]
      intro r hr
      simp [h r hr, hcurrent]
    simp only [candidates, hlower, hhigher]
    split
    · exact ⟨_, rfl⟩
    · exact ⟨_, rfl⟩
    · next hcandidates =>
      split at hcandidates
      · cases hcandidates
      · split at hcandidates
        · cases hcandidates
        · cases hcandidates

/-- All orders of a table are the one that is inserted. -/
theorem Reachable.order_eq {Inserted : R → Prop} {order : Int}
    (hinserted : ∀ r, Inserted r → T.order r = order) {rows : List R}
    (h : T.Reachable Inserted rows) : ∀ r ∈ rows, T.order r = order := by
  induction h with
  | empty => exact fun _ hr => nomatch hr
  | insert _ hnew ih =>
    intro r hr
    unfold insertRow at hr
    split at hr
    · exact ih r hr
    · rcases List.mem_append.1 hr with hr | hr
      · exact ih r hr
      · rw [List.mem_singleton.1 hr]
        exact hinserted _ hnew
  | reorder _ hok ih =>
    obtain ⟨e, herror⟩ := reorder_of_equal ih
    rw [herror] at hok
    cases hok

/-- In a table of equal orders a move is right where it should be refused. -/
theorem reorders_iff_atEdge {direction : String} {now : DateTime} {rows : List R} {row : R}
    {order : Int} (h : ∀ r ∈ rows, T.order r = order) :
    T.Reorders direction now rows row ↔
      AtEdge direction (T.id row) (T.listedIds (T.group row) rows) := by
  obtain ⟨e, herror⟩ : ∃ e, T.reorder (T.id row) direction now rows = .error e :=
    reorder_of_equal h
  constructor
  · intro hreorders
    exact hreorders.refuses e herror
  · intro hedge
    have hnot (rows' : List R) : T.reorder (T.id row) direction now rows ≠ .ok rows' := by
      rw [herror]
      nofun
    exact ⟨fun _ hok => absurd hok (hnot _), fun _ hok => absurd hok (hnot _),
      fun _ hok => absurd hok (hnot _), fun _ hok => absurd hok (hnot _), fun _ _ => hedge⟩

end Ordered

/-! ## The two tables -/

theorem InsertedTopic.order_eq {t : Topic} (h : InsertedTopic t) : topicOrder.order t = 0 := by
  cases h
  rfl

theorem InsertedContent.order_eq {c : Content} (h : InsertedContent c) :
    contentOrder.order c = 0 := by
  cases h with
  | published => rfl
  | inserted => rfl

open Ordered

/-- Moves in the tables that the code can reach. -/
theorem reorder_iff_atEdge (direction : String) (now : DateTime) :
    (∀ rows, topicOrder.Reachable InsertedTopic rows → ∀ topic ∈ rows,
      (topicOrder.Reorders direction now rows topic ↔
        AtEdge direction topic.id (topicOrder.listedIds () rows))) ∧
    ∀ rows, contentOrder.Reachable InsertedContent rows → ∀ content ∈ rows,
      (contentOrder.Reorders direction now rows content ↔
        AtEdge direction content.id (contentOrder.listedIds content.topicId rows)) := by
  constructor
  · intro rows h topic _
    exact reorders_iff_atEdge (h.order_eq fun _ => InsertedTopic.order_eq)
  · intro rows h content _
    exact reorders_iff_atEdge (h.order_eq fun _ => InsertedContent.order_eq)

/-- The first of two topics cannot be moved down. -/
theorem first_topic_stuck :
    ¬ ∀ rows, topicOrder.Reachable InsertedTopic rows → ∀ topic ∈ rows, ∀ direction now,
      direction = "up" ∨ direction = "down" → topicOrder.Reorders direction now rows topic := by
  intro h
  let older := publishedTopic ⟨1⟩ "Pecahan" "7" (some 7) 1
  let newer := publishedTopic ⟨2⟩ "Desimal" "7" (some 7) 2
  have hreachable : topicOrder.Reachable InsertedTopic [older, newer] :=
    (Reachable.empty.insert (InsertedTopic.published ⟨1⟩ "Pecahan" "7" (some 7) 1)).insert
      (InsertedTopic.published ⟨2⟩ "Desimal" "7" (some 7) 2)
  have hmoves := h _ hreachable newer (by simp) "down" 3 (.inr rfl)
  rcases hmoves.refuses _ rfl with hedge | hedge
  · exact absurd hedge.1 (by decide)
  · exact absurd hedge.2 (by decide)

end KlassGateway.Db.Admin
