import KlassGateway.Queue.Worker
/-!
# The texts on the job stream

Model of what `enqueue` in `queue/redis_streams.rs` and the retry branch of
`queue/worker.rs` write, and of `read_messages`, `extract_messages` and
`value_to_str`, which read it.  An entry of the stream is a list of fields here,
as `XADD` gets them.

* `RedisValue` is a reply.  Its bytes are texts, since every field that is
  written is a text.
* `readReply` is the reply to `XREADGROUP`: what a worker gets to read.
* `readMessages_readReply`: each entry that was delivered is read by itself.
* `readAdded_enqueueFields`, `readAdded_reenqueueFields`: the two round trips.

`StreamEntry.payload` repeats the other fields and nothing reads it.
-/

namespace KlassGateway.Queue.Wire

open Lib

/-! ## The reader -/

/-- `redis::Value`, by the representations that the reader tells apart. -/
inductive RedisValue where
  | nil
  | int (i : Int)
  | bulkString (text : String)
  | simpleString (text : String)
  | array (items : List RedisValue)
  | other

/-- `value_to_str`. -/
def valueToStr : RedisValue → Option String
  | .bulkString text => some text
  | .simpleString text => some text
  | .int i => some (toString i)
  | _ => none

/-- The fields of an entry.  As a map it holds the last of them first. -/
abbrev Fields := List (String × String)

/-- The loop over `chunks(2)`. -/
def insertChunks (fields : Fields) : List RedisValue → Fields
  | key :: value :: rest =>
    match valueToStr key with
    | some k => insertChunks ((k, (valueToStr value).getD "") :: fields) rest
    | none => insertChunks fields rest
  | _ => fields

/-- The loop over the messages of `extract_messages`.  An entry of another shape
is passed over, and an id that is no text ends the whole read. -/
def extractAll : List RedisValue → Option (List (String × Fields))
  | [] => some []
  | .array (id :: .array fields :: _) :: rest => do
    let entryId ← valueToStr id
    let result ← extractAll rest
    return (entryId, insertChunks [] fields) :: result
  | .array (id :: _ :: _) :: rest => do
    let _ ← valueToStr id
    extractAll rest
  | _ :: rest => extractAll rest

/-- `extract_messages`. -/
def extractMessages : RedisValue → Option (List (String × Fields))
  | .array (_ :: .array messages :: _) => extractAll messages
  | _ => none

/-- `StreamEntry`. -/
structure StreamEntry where
  id : String
  generationId : String
  jobId : Option String
  attempt : Int
  deriving DecidableEq

/-- An entry of `read_messages`. -/
def readEntry (entryId : String) (fields : Fields) : StreamEntry where
  id := entryId
  generationId := (fields.lookup "generation_id").getD ""
  jobId := (fields.lookup "job_id").filter fun v => v ≠ ""
  attempt := ((fields.lookup "attempt").bind Text.parseI64).getD 1

/-- `read_messages`, from the reply on. -/
def readMessages : RedisValue → List StreamEntry
  | .array streams => streams.flatMap fun streamResult =>
    ((extractMessages streamResult).getD []).map fun message => readEntry message.1 message.2
  | _ => []

/-! ## The writers -/

/-- An attempt as text. -/
def attemptText (attempt : Int) : String := toString attempt

/-- What `enqueue` adds. -/
def enqueueFields (generationId jobId : String) (attempt : Int) (now : String) : Fields :=
  [("generation_id", generationId), ("job_id", jobId), ("attempt", attemptText attempt),
    ("enqueued_at", now)]

/-- What the retry branch adds. -/
def reenqueueFields (entry : StreamEntry) (now : String) : Fields :=
  ("generation_id", entry.generationId) ::
    (match entry.jobId with
      | some jobId => [("job_id", jobId)]
      | none => []) ++
    [("attempt", attemptText (entry.attempt + 1)), ("enqueued_at", now)]

/-- What `xadd_dlq` adds. -/
def dlqFields (generationId : String) (attempt : Int) (payload : String) : Fields :=
  [("generation_id", generationId), ("attempt", attemptText attempt), ("payload", payload)]

/-! ## The server -/

/-- The text of an entry id. -/
def entryIdText (id : Nat) : String := toString (id : Int) ++ "-0"

/-- An entry in a reply. -/
def messageValue (id : Nat) (fields : Fields) : RedisValue :=
  .array [.bulkString (entryIdText id),
    .array (fields.flatMap fun field => [.bulkString field.1, .bulkString field.2])]

/-- The reply of `XREADGROUP` to a read of one stream. -/
def readReply (entries : List (Nat × Fields)) : RedisValue :=
  if entries.isEmpty then .nil
  else .array [.array [.bulkString "klass:media-gen",
    .array (entries.map fun entry => messageValue entry.1 entry.2)]]

/-! ## What is read of a reply -/

theorem entryIdText_injective {id id' : Nat} (h : entryIdText id = entryIdText id') : id = id' := by
  have htext : toString (id : Int) = toString (id' : Int) := by
    have hlist := congrArg String.toList h
    rw [entryIdText, entryIdText, String.toList_append, String.toList_append,
      List.append_left_inj] at hlist
    exact String.toList_injective hlist
  exact Int.ofNat.inj (Text.toString_int_injective htext)

theorem insertChunks_texts (acc fields : Fields) :
    insertChunks acc (fields.flatMap fun field => [.bulkString field.1, .bulkString field.2]) =
      fields.reverse ++ acc := by
  induction fields generalizing acc with
  | nil => rfl
  | cons field fields ih =>
    rw [List.flatMap_cons, List.reverse_cons, List.append_assoc]
    exact ih _

theorem extractAll_cons (id : Nat) (fields : Fields) (rest : List RedisValue) :
    extractAll (messageValue id fields :: rest) =
      (extractAll rest).map fun result => (entryIdText id, fields.reverse) :: result := by
  have hfields := insertChunks_texts [] fields
  rw [List.append_nil] at hfields
  rw [messageValue, extractAll, hfields]
  cases extractAll rest <;> rfl

theorem extractAll_messages (entries : List (Nat × Fields)) :
    extractAll (entries.map fun entry => messageValue entry.1 entry.2) =
      some (entries.map fun entry => (entryIdText entry.1, entry.2.reverse)) := by
  induction entries with
  | nil => rfl
  | cons entry entries ih =>
    rw [List.map_cons, extractAll_cons, ih]
    rfl

/-- Each entry that was delivered is read by itself. -/
theorem readMessages_readReply (entries : List (Nat × Fields)) :
    readMessages (readReply entries) =
      entries.map fun entry => readEntry (entryIdText entry.1) entry.2.reverse := by
  cases entries with
  | nil => rfl
  | cons entry entries =>
    have hall : extractMessages (.array [.bulkString "klass:media-gen",
        .array ((entry :: entries).map fun entry => messageValue entry.1 entry.2)]) = some _ :=
      extractAll_messages (entry :: entries)
    rw [readReply, if_neg (by simp), readMessages, List.flatMap_singleton, hall, Option.getD_some,
      List.map_map]
    rfl

/-! ## Round trips -/

/-- An attempt is read as it was written. -/
theorem parseI64_attempt {attempt : Int} (h : -(2 ^ 63) ≤ attempt ∧ attempt < 2 ^ 63) :
    Text.parseI64 (attemptText attempt) = some attempt := by
  rw [attemptText, Text.parseI64, Text.parseSigned_toString]
  simpa [Option.filter] using h

/-- What a worker reads of an entry that was added. -/
def readAdded (id : String) (fields : Fields) : StreamEntry := readEntry id fields.reverse

/-- An empty job id counts as none. -/
def jobIdOf (jobId : String) : Option String := if jobId = "" then none else some jobId

theorem jobIdOf_ne_empty {jobId id : String} (h : jobIdOf jobId = some id) : id ≠ "" := by
  unfold jobIdOf at h
  split_ifs at h with hempty
  obtain rfl := Option.some.inj h
  exact hempty

theorem readAdded_enqueueFields (id generationId jobId now : String) {attempt : Int}
    (h : -(2 ^ 63) ≤ attempt ∧ attempt < 2 ^ 63) :
    readAdded id (enqueueFields generationId jobId attempt now) =
      ⟨id, generationId, jobIdOf jobId, attempt⟩ := by
  simp [readAdded, readEntry, enqueueFields, jobIdOf, List.lookup_cons, parseI64_attempt h,
    Option.filter]

theorem readAdded_reenqueueFields (id now : String) {entry : StreamEntry}
    (hjob : ∀ jobId, entry.jobId = some jobId → jobId ≠ "")
    (h : -(2 ^ 63) ≤ entry.attempt + 1 ∧ entry.attempt + 1 < 2 ^ 63) :
    readAdded id (reenqueueFields entry now) =
      ⟨id, entry.generationId, entry.jobId, entry.attempt + 1⟩ := by
  cases hid : entry.jobId with
  | none =>
    simp [readAdded, readEntry, reenqueueFields, hid, List.lookup_cons, parseI64_attempt h]
  | some jobId =>
    have hne := hjob jobId hid
    simp [readAdded, readEntry, reenqueueFields, hid, List.lookup_cons, parseI64_attempt h,
      Option.filter, hne]

end KlassGateway.Queue.Wire
