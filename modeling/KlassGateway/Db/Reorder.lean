import KlassGateway.Db.PartialUpdates
import KlassGateway.Lib.Sorting
/-!
# The order of topics and contents

Model of `reorder` in `db/repositories/topics.rs` and `contents.rs`, of the
listing order of `find_many`, and of the statements that insert a row: two in
`media_gen/publication.rs` and `ContentsRepo::insert`.

Both tables are handled by one definition with the columns as parameters; the
contents are ordered within their topic.
-/

namespace KlassGateway.Db.Admin

open Lib

/-- The columns of a table that is ordered by hand within groups `G`. -/
structure Ordered (R G : Type) where
  id : R → Uuid
  group : R → G
  order : R → Int
  createdAt : R → DateTime
  /-- `SET "order" = $2, updated_at = NOW()`. -/
  setOrder : Int → DateTime → R → R
  /-- The error for a row that is not there. -/
  missing : String

/-- The table `topics`. -/
def topicOrder : Ordered Topic Unit where
  id := Topic.id
  group _ := ()
  order := Topic.order
  createdAt t := t.createdAt.getD 0
  setOrder order now t := { t with order := order, updatedAt := some now }
  missing := "topic not found"

/-- The table `contents`. -/
def contentOrder : Ordered Content Uuid where
  id := Content.id
  group := Content.topicId
  order := Content.order
  createdAt c := c.createdAt.getD 0
  setOrder order now c := { c with order := order, updatedAt := some now }
  missing := "content not found"

namespace Ordered

variable {R G : Type} [DecidableEq G] (T : Ordered R G)

/-- `ORDER BY "order" ASC, created_at DESC`. -/
def compareListed (a b : R) : Ordering :=
  (compare (T.order a) (T.order b)).then (compare (T.createdAt b) (T.createdAt a))

/-- The rows of a group as `find_many` lists them. -/
def listing (group : G) (rows : List R) : List R :=
  sortBy T.compareListed (rows.filter fun r => T.group r = group)

/-- The rows that `reorder` may exchange a row with, the nearest first; `none`
for a direction that it does not know. -/
def candidates (direction : String) (current : R) (rows : List R) : Option (List R) :=
  if direction = "up" then
    some (sortBy (fun a b => compare (T.order b) (T.order a))
      (rows.filter fun r => T.group r = T.group current ∧ T.order r < T.order current))
  else if direction = "down" then
    some (sortBy (fun a b => compare (T.order a) (T.order b))
      (rows.filter fun r => T.group r = T.group current ∧ T.order current < T.order r))
  else none

/-- `reorder`: the table after the transaction. -/
def reorder (id : Uuid) (direction : String) (now : DateTime) (rows : List R) :
    Except String (List R) :=
  match Table.find T.id id rows with
  | none => .error T.missing
  | some current =>
    match T.candidates direction current rows with
    | none => .error ("invalid direction '" ++ direction ++ "': must be 'up' or 'down'")
    | some [] => .error ("cannot move " ++ direction ++ " further — already at the edge")
    | some (neighbor :: _) =>
      .ok (Table.modify T.id (T.id neighbor) (T.setOrder (T.order current) now)
        (Table.modify T.id id (T.setOrder (T.order neighbor) now) rows))

/-- `INSERT`; a row with a key that is there is not inserted. -/
def insertRow (new : R) (rows : List R) : List R :=
  if (Table.find T.id (T.id new) rows).isSome then rows else rows ++ [new]

/-- The tables that inserts of rows that meet `Inserted` and reorders lead to. -/
inductive Reachable (Inserted : R → Prop) : List R → Prop
  | empty : Reachable Inserted []
  | insert {rows : List R} {new : R} (h : Reachable Inserted rows) (hnew : Inserted new) :
      Reachable Inserted (T.insertRow new rows)
  | reorder {rows rows' : List R} {id : Uuid} {direction : String} {now : DateTime}
      (h : Reachable Inserted rows) (hok : T.reorder id direction now rows = .ok rows') :
      Reachable Inserted rows'

end Ordered

/-! ## Inserts -/

/-- The topic that a publication inserts. -/
def publishedTopic (id : Uuid) (title teacherId : String) (ownerUserId : Option Int)
    (now : DateTime) : Topic where
  id
  title
  teacherId
  ownerUserId
  ownershipStatus := "owned"
  isPublished := true
  order := 0
  createdAt := some now
  updatedAt := some now

/-- The content that a publication inserts. -/
def publishedContent (id topicId : Uuid) (contentType title mediaUrl : String) (now : DateTime) :
    Content where
  id
  topicId
  contentType
  title := some title
  mediaUrl := some mediaUrl
  isPublished := true
  order := 0
  createdAt := some now
  updatedAt := some now

/-- `CreateContentPayload`. -/
structure CreateContentPayload where
  topicId : Uuid
  contentType : String
  title : Option String := none
  data : Option Json := none
  mediaUrl : Option String := none

/-- The content that `ContentsRepo::insert` inserts. -/
def insertedContent (id : Uuid) (payload : CreateContentPayload) (now : DateTime) : Content where
  id
  topicId := payload.topicId
  contentType := payload.contentType
  title := payload.title
  data := payload.data
  mediaUrl := payload.mediaUrl
  isPublished := true
  order := 0
  createdAt := some now
  updatedAt := some now

/-- The topics that the code inserts. -/
inductive InsertedTopic : Topic → Prop
  | published (id title teacherId ownerUserId now) :
      InsertedTopic (publishedTopic id title teacherId ownerUserId now)

/-- The contents that the code inserts. -/
inductive InsertedContent : Content → Prop
  | published (id topicId contentType title mediaUrl now) :
      InsertedContent (publishedContent id topicId contentType title mediaUrl now)
  | inserted (id payload now) : InsertedContent (insertedContent id payload now)

end KlassGateway.Db.Admin
