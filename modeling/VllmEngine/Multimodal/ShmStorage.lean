import VllmEngine.Shared.Run

set_option autoImplicit false

namespace VllmEngine

-- The live ids, oldest first; an id stands for its buffer, so addresses are left out.
structure SingleWriterShmObjectStorage (Key : Type) where
  nReaders : Nat
  ids : List Nat := []
  monotonicIdEnd : Nat := 0
  idIndex : Nat → Option Key := fun _ => none
  writerFlag : Nat → Nat := fun _ => 0
  readerCount : Nat → Nat := fun _ => 0

inductive ShmError where
  | modifiedOrInvalid

namespace SingleWriterShmObjectStorage

variable {Key : Type} [DecidableEq Key] (storage : SingleWriterShmObjectStorage Key) (id : Nat)
  (key : Key)

def keyIndex : Option Nat :=
  storage.ids.find? fun id => storage.idIndex id = some key

def incrementWriterFlag : SingleWriterShmObjectStorage Key :=
  { storage with writerFlag := Function.update storage.writerFlag id (storage.writerFlag id + 1) }

def incrementReaderFlag : SingleWriterShmObjectStorage Key :=
  { storage with readerCount := Function.update storage.readerCount id (storage.readerCount id + 1) }

def defaultIsFreeCheck : Prop :=
  storage.writerFlag id * storage.nReaders ≤ storage.readerCount id

instance : Decidable (storage.defaultIsFreeCheck id) :=
  inferInstanceAs (Decidable (_ ≤ _))

def freeBuf : Nat → List Nat → List Nat
  | bufs + 1, id :: rest => if storage.defaultIsFreeCheck id then freeBuf bufs rest else id :: rest
  | _, ids => ids

def allocate : SingleWriterShmObjectStorage Key :=
  let id := storage.monotonicIdEnd
  { storage with
    ids := storage.ids ++ [id]
    monotonicIdEnd := id + 1
    idIndex := Function.update storage.idIndex id key
    writerFlag := Function.update storage.writerFlag id 1
    readerCount := Function.update storage.readerCount id 0 }

-- `free_buf` walks over `bufs` buffers first: none if the object fits at once or is too large.
def put (bufs : Nat) (stored : Bool) : SingleWriterShmObjectStorage Key × List Nat :=
  let freed := { storage with ids := storage.freeBuf bufs storage.ids }
  if stored then (freed.allocate key, [storage.monotonicIdEnd]) else (freed, [])

def touchWriter : SingleWriterShmObjectStorage Key :=
  match storage.keyIndex key with
  | none => storage
  | some id => storage.incrementWriterFlag id

def touchReader : SingleWriterShmObjectStorage Key :=
  if storage.nReaders ≤ storage.readerCount id then storage.incrementReaderFlag id else storage

-- The id check of a freed buffer counts as failed, as the buffer can be overwritten at once.
def get : Except ShmError (SingleWriterShmObjectStorage Key) :=
  if id ∈ storage.ids then .ok (storage.incrementReaderFlag id) else .error .modifiedOrInvalid

def getAndUpdateItem (bufs : Nat) (stored : Bool) :
    SingleWriterShmObjectStorage Key × List Nat :=
  match storage.keyIndex key with
  | some id => (storage.incrementWriterFlag id, [id])
  | none => storage.put key bufs stored

end SingleWriterShmObjectStorage

-- A request is handled by touching all its items and then getting each of them.
structure ShmReader where
  touching : List Nat := []
  getting : List Nat := []
  delivered : List (List Nat) := []

def ShmReader.pending (reader : ShmReader) : List Nat :=
  reader.getting ++ reader.delivered.flatten

def ShmReader.pendingTouches (reader : ShmReader) : List Nat :=
  reader.touching ++ reader.delivered.flatten

structure ShmCache (Key : Type) where
  storage : SingleWriterShmObjectStorage Key
  touching : List Key := []
  getting : List Key := []
  collected : List Nat := []
  readers : List ShmReader

inductive ShmOp (Key : Type) where
  | process (mmHashes : List Key)
  | writer (bufs : Nat) (stored : Bool)
  -- The references in the order of the positions of their items.
  | deliver (features : List Nat)
  | reject
  | reader (index : Nat)

namespace ShmCache

variable {Key : Type} [DecidableEq Key] (cache : ShmCache Key)

def start (nReaders : Nat) : ShmCache Key where
  storage := { nReaders }
  readers := List.replicate nReaders {}

def process (mmHashes : List Key) : ShmCache Key :=
  if cache.getting = [] ∧ cache.collected = [] then
    { cache with touching := mmHashes, getting := mmHashes }
  else cache

def writerStep (bufs : Nat) (stored : Bool) : ShmCache Key :=
  match cache.touching, cache.getting with
  | mmHash :: touching, _ => { cache with storage := cache.storage.touchWriter mmHash, touching }
  | [], mmHash :: getting =>
    let updated := cache.storage.getAndUpdateItem mmHash bufs stored
    { cache with storage := updated.1, getting, collected := cache.collected ++ updated.2 }
  | [], [] => cache

def deliver (features : List Nat) : ShmCache Key :=
  if cache.getting = [] ∧ features.Perm cache.collected then
    { cache with
      collected := []
      readers := cache.readers.map fun reader =>
        { reader with delivered := reader.delivered ++ [features] } }
  else cache

def readerStep (index : Nat) (reader : ShmReader) : Except ShmError (ShmCache Key) :=
  let become (storage : SingleWriterShmObjectStorage Key) (reader : ShmReader) :=
    { cache with storage, readers := cache.readers.set index reader }
  match reader.touching, reader.getting, reader.delivered with
  | id :: touching, _, _ => .ok (become (cache.storage.touchReader id) { reader with touching })
  | [], id :: getting, _ => (become · { reader with getting }) <$> cache.storage.get id
  | [], [], refs :: delivered => .ok (become cache.storage ⟨refs, refs, delivered⟩)
  | [], [], [] => .ok cache

-- An operation that cannot be taken in a state leaves it as it is.
def step : ShmOp Key → Except ShmError (ShmCache Key)
  | .process mmHashes => .ok (cache.process mmHashes)
  | .writer bufs stored => .ok (cache.writerStep bufs stored)
  | .deliver features => .ok (cache.deliver features)
  | .reject => .ok { cache with touching := [], getting := [], collected := [] }
  | .reader index => (cache.readers[index]?).elim (.ok cache) (cache.readerStep index)

def ReadBeforeFree : Prop :=
  ∀ id ∈ cache.storage.ids, cache.storage.defaultIsFreeCheck id →
    ∀ reader ∈ cache.readers, id ∉ reader.pending

def NewItemOnce : ShmOp Key → Prop
  | .writer _ _ => ∀ mmHash ∈ cache.getting.head?, cache.touching = [] →
      cache.storage.keyIndex mmHash = none → mmHash ∉ cache.getting.tail
  | _ => True

def gets (id : Nat) : Nat := (cache.readers.flatMap ShmReader.pending).count id

def touches (id : Nat) : Nat := (cache.readers.flatMap ShmReader.pendingTouches).count id

def Reads (nReaders handled count touches gets : Nat) : Prop :=
  count < nReaders ∧ count + gets = handled * nReaders ∨
    nReaders ≤ count ∧ count + touches + gets + nReaders ≤ 2 * (handled * nReaders)

structure Counted (id handled : Nat) : Prop where
  writer : ∀ key, cache.storage.idIndex id = some key →
    2 * (handled + cache.collected.count id) + cache.getting.count key ≤
      cache.storage.writerFlag id + 1 + cache.touching.count key
  reader : Reads cache.storage.nReaders handled (cache.storage.readerCount id) (cache.touches id)
    (cache.gets id)

structure Sound : Prop where
  indexed : ∀ id ∈ cache.storage.ids, ∃ key, cache.storage.idIndex id = some key ∧
    ∀ other ∈ cache.storage.ids, cache.storage.idIndex other = some key → other = id
  allocated : ∀ id ∈ cache.storage.ids, id < cache.storage.monotonicIdEnd
  sized : cache.readers.length = cache.storage.nReaders
  touching : cache.touching.Sublist cache.getting
  readers : ∀ reader ∈ cache.readers, reader.touching.Sublist reader.getting ∧
    ∀ id ∈ reader.pending, id ∈ cache.storage.ids
  collected : ∀ id ∈ cache.collected, id < cache.storage.monotonicIdEnd ∧
    (cache.readers ≠ [] → id ∈ cache.storage.ids)
  counted : ∀ id ∈ cache.storage.ids, ∃ handled, cache.Counted id handled

variable {cache} {id handled index : Nat} {mmHash : Key} {rest : List Key}

open SingleWriterShmObjectStorage ShmReader List Function

theorem Sound.unread (sound : cache.Sound) (live : id ∈ cache.storage.ids)
    (free : cache.storage.defaultIsFreeCheck id) :
    (∀ reader ∈ cache.readers, id ∉ reader.pending) ∧
      (id ∉ cache.collected ∨ cache.storage.nReaders = 0) := by
  obtain ⟨handled, counted⟩ := sound.counted id live
  obtain ⟨key, named, _⟩ := sound.indexed id live
  have flagged : 2 * (handled + cache.collected.count id) ≤ cache.storage.writerFlag id + 1 := by
    have := counted.writer key named
    have := sound.touching.count_le key
    omega
  unfold defaultIsFreeCheck at free
  have none : cache.gets id = 0 ∧ cache.collected.count id * cache.storage.nReaders = 0 := by
    rcases counted.reader with ⟨_, reads⟩ | ⟨_, reads⟩
    · have none : handled + cache.collected.count id = 0 := by
        by_contra some
        have := Nat.mul_le_mul_right cache.storage.nReaders
          (show 1 ≤ cache.storage.writerFlag id by omega)
        omega
      simp_all
    · have := Nat.mul_le_mul_right cache.storage.nReaders flagged
      rw [Nat.mul_assoc, Nat.add_mul, Nat.add_mul] at this
      omega
  simpa [gets, Nat.mul_eq_zero, count_eq_zero] using none

section Readers

variable {readers : List ShmReader} (id) (pending : ShmReader → List Nat)

theorem count_set {reader : ShmReader} (changed : ShmReader) (here : readers[index]? = some reader) :
    ((readers.set index changed).flatMap pending).count id + (pending reader).count id =
      (readers.flatMap pending).count id + (pending changed).count id := by
  induction readers generalizing index with
  | nil => simp at here
  | cons first rest ih =>
    cases index with
    | zero => simp_all; omega
    | succ index =>
      have := @ih index (by simpa using here)
      simp only [set_cons_succ, flatMap_cons, count_append]
      omega

theorem count_map (readers : List ShmReader) (refs : List Nat)
    (adds : ∀ reader : ShmReader, pending { reader with delivered := reader.delivered ++ [refs] } =
      pending reader ++ refs) :
    ((readers.map fun reader => { reader with delivered := reader.delivered ++ [refs] }).flatMap
      pending).count id = (readers.flatMap pending).count id + refs.count id * readers.length := by
  induction readers with
  | nil => simp
  | cons first rest ih =>
    simp only [map_cons, flatMap_cons, count_append, adds, length_cons, Nat.mul_succ]
    omega

theorem count_pendingTouches_le
    (each : ∀ reader ∈ readers, reader.touching.Sublist reader.getting) :
    (readers.flatMap ShmReader.pendingTouches).count id ≤
      (readers.flatMap ShmReader.pending).count id := by
  induction readers with
  | nil => simp
  | cons first rest ih =>
    obtain ⟨now, later⟩ := forall_mem_cons.mp each
    have := now.count_le id
    have := ih later
    simp only [flatMap_cons, count_append, ShmReader.pending, ShmReader.pendingTouches]
    omega

end Readers

theorem sound_start (nReaders : Nat) : (start nReaders : ShmCache Key).Sound := by
  constructor <;> simp_all [start, pending]

section

variable (sound : cache.Sound)

include sound

theorem Sound.writes (writerFlag : Nat → Nat) {touching getting : List Key}
    {collected : List Nat} (sublist : touching.Sublist getting)
    (kept : ∀ id ∈ collected, id ∈ cache.collected ∨ id ∈ cache.storage.ids)
    (flagged : ∀ id ∈ cache.storage.ids, ∀ key, cache.storage.idIndex id = some key →
      2 * collected.count id + getting.count key + cache.storage.writerFlag id +
          cache.touching.count key ≤
        2 * cache.collected.count id + cache.getting.count key + writerFlag id +
          touching.count key) :
    ({ cache with storage.writerFlag := writerFlag, touching, getting, collected } :
      ShmCache Key).Sound := by
  have := sound.collected
  have := sound.allocated
  refine { sound with touching := sublist, collected := by grind, counted := fun id live => ?_ }
  obtain ⟨handled, counted⟩ := sound.counted id live
  refine ⟨handled, fun key named => ?_, counted.reader⟩
  have := counted.writer key named
  have := flagged id live key named
  simp only
  omega

theorem Sound.process (mmHashes : List Key) :
    (cache.process mmHashes).Sound := by
  unfold ShmCache.process
  split
  next idle =>
    have none : cache.touching = [] := by simpa [idle] using sound.touching
    exact sound.writes cache.storage.writerFlag (Sublist.refl _) (fun _ => .inl)
      (by simp [none, idle, Nat.add_comm])
  next => exact sound

theorem Sound.reject :
    ({ cache with touching := [], getting := [], collected := [] } : ShmCache Key).Sound := by
  refine sound.writes cache.storage.writerFlag (List.Sublist.refl _) (by simp) fun id _ key _ => ?_
  have := sound.touching.count_le key
  simp only [count_nil]
  omega

theorem Sound.deliver (features : List Nat) : (cache.deliver features).Sound := by
  unfold ShmCache.deliver
  split
  next sorted =>
    obtain ⟨idle, sorted⟩ := sorted
    refine { sound with
      sized := by simpa using sound.sized, readers := ?_, collected := by simp
      counted := fun id live => ?_ }
    · have := sound.readers
      have := sound.collected
      simp_all [pending, sorted.mem_iff]
      grind
    · obtain ⟨handled, counted⟩ := sound.counted id live
      refine ⟨handled + cache.collected.count id, by simpa using counted.writer, ?_⟩
      have gets := count_map id pending cache.readers features (by simp [pending])
      have touches := count_map id pendingTouches cache.readers features
        (by simp [pendingTouches])
      rw [sorted.count_eq] at gets touches
      have := counted.reader
      simp only [ShmCache.gets, ShmCache.touches, Reads, sound.sized] at *
      grind
  next => exact sound

theorem Sound.keyIndex (found : cache.storage.keyIndex mmHash = some id) :
    id ∈ cache.storage.ids ∧ cache.storage.idIndex id = some mmHash ∧
      ∀ other ∈ cache.storage.ids, cache.storage.idIndex other = some mmHash → other = id := by
  have live := mem_of_find?_eq_some found
  have named : cache.storage.idIndex id = some mmHash := by simpa using find?_some found
  have := sound.indexed id live
  grind

end

theorem keyIndex_eq_none : cache.storage.keyIndex mmHash = none ↔
    ∀ id ∈ cache.storage.ids, cache.storage.idIndex id ≠ some mmHash := by
  simp [SingleWriterShmObjectStorage.keyIndex]

theorem Sound.touchWriter (sound : cache.Sound) (touching : cache.touching = mmHash :: rest) :
    ({ cache with storage := cache.storage.touchWriter mmHash, touching := rest } :
      ShmCache Key).Sound := by
  have before := sound.touching
  unfold SingleWriterShmObjectStorage.touchWriter
  split
  next missing =>
    have := keyIndex_eq_none.mp missing
    exact sound.writes cache.storage.writerFlag (by grind) (fun _ => .inl) (by grind)
  next id found =>
    have := sound.keyIndex found
    exact sound.writes _ (by grind) (fun _ => .inl) (by grind [update_apply])

theorem Sound.getCached (sound : cache.Sound) (touching : cache.touching = [])
    (getting : cache.getting = mmHash :: rest) (found : cache.storage.keyIndex mmHash = some id) :
    ({ cache with
      storage := cache.storage.incrementWriterFlag id, getting := rest
      collected := cache.collected ++ [id] } : ShmCache Key).Sound := by
  have := sound.keyIndex found
  exact sound.writes _ (by simp [touching]) (by grind) (by grind [update_apply])

omit [DecidableEq Key] in
theorem freeBuf_spec (storage : SingleWriterShmObjectStorage Key) (bufs : Nat) (ids : List Nat) :
    storage.freeBuf bufs ids ⊆ ids ∧
      ∀ id ∈ ids, id ∈ storage.freeBuf bufs ids ∨ storage.defaultIsFreeCheck id := by
  fun_induction freeBuf storage bufs ids <;> grind

theorem Sound.freeUnused (sound : cache.Sound) (bufs : Nat) :
    ({ cache with storage.ids := cache.storage.freeBuf bufs cache.storage.ids } :
      ShmCache Key).Sound := by
  obtain ⟨fewer, _⟩ := freeBuf_spec cache.storage bufs cache.storage.ids
  have unread (id) (live : id ∈ cache.storage.ids) := sound.unread live
  have := sound.sized
  have := sound.indexed
  have := sound.collected
  have := sound.readers
  refine { sound with
    indexed := by grind, allocated := fun id live => sound.allocated id (fewer live)
    readers := by grind, collected := by grind
    counted := fun id live => ?_ }
  obtain ⟨handled, counted⟩ := sound.counted id (fewer live)
  exact ⟨handled, counted.writer, counted.reader⟩

theorem Sound.allocate (sound : cache.Sound) (touching : cache.touching = [])
    (missing : cache.storage.keyIndex mmHash = none) (once : mmHash ∉ cache.getting) :
    ({ cache with
      storage := cache.storage.allocate mmHash
      collected := cache.collected ++ [cache.storage.monotonicIdEnd] } : ShmCache Key).Sound := by
  have other := keyIndex_eq_none.mp missing
  have below := sound.allocated
  have := sound.indexed
  have := sound.collected
  have := sound.readers
  have unread : cache.gets cache.storage.monotonicIdEnd = 0 := by
    simp only [gets, count_eq_zero]
    grind
  have := count_pendingTouches_le cache.storage.monotonicIdEnd fun reader member =>
    (sound.readers reader member).1
  refine { sound with indexed := ?_, allocated := ?_, readers := ?_, collected := ?_, counted := ?_ }
  all_goals simp only [SingleWriterShmObjectStorage.allocate]
  · grind
  · grind
  · grind
  · grind
  · intro id live
    by_cases new : id = cache.storage.monotonicIdEnd
    · refine ⟨0, fun key named => ?_, ?_⟩
      · grind
      · simp only [ShmCache.gets, ShmCache.touches, Reads] at *
        grind
    · obtain ⟨handled, counted⟩ := sound.counted id (by grind)
      refine ⟨handled, fun key named => ?_, ?_⟩
      · have := counted.writer key
        grind
      · simp only [update_of_ne new]
        exact counted.reader

theorem Sound.writerStep (sound : cache.Sound) (bufs : Nat) (stored : Bool)
    (once : cache.NewItemOnce (.writer bufs stored)) : (cache.writerStep bufs stored).Sound := by
  unfold ShmCache.writerStep
  split
  next touching => exact sound.touchWriter touching
  next mmHash rest touching getting =>
    simp only [SingleWriterShmObjectStorage.getAndUpdateItem]
    split
    next id found => exact sound.getCached touching getting found
    next missing =>
      have skipped := sound.writes cache.storage.writerFlag (touching ▸ nil_sublist rest)
        (fun _ => .inl) (by grind)
      have freed := skipped.freeUnused bufs
      cases stored with
      | false => simpa [put] using freed
      | true =>
        have fewer := (freeBuf_spec cache.storage bufs cache.storage.ids).1
        refine freed.allocate touching (keyIndex_eq_none.mpr fun id live => ?_) ?_
        · exact keyIndex_eq_none.mp missing id (fewer live)
        · simpa [NewItemOnce, touching, getting, missing] using once
  next => exact sound

section Reader

variable {reader changed : ShmReader}

theorem Sound.setReader (sound : cache.Sound) (here : cache.readers[index]? = some reader)
    (readerCount : Nat → Nat) (touching : changed.touching.Sublist changed.getting)
    (pending : changed.pending ⊆ reader.pending) (counted : ∀ id handled touches gets,
      touches + reader.pendingTouches.count id = cache.touches id + changed.pendingTouches.count id →
      gets + reader.pending.count id = cache.gets id + changed.pending.count id → touches ≤ gets →
      Reads cache.storage.nReaders handled (cache.storage.readerCount id) (cache.touches id)
        (cache.gets id) →
      Reads cache.storage.nReaders handled (readerCount id) touches gets) :
    ({ cache with
      storage.readerCount := readerCount, readers := cache.readers.set index changed } :
        ShmCache Key).Sound := by
  have known := sound.readers reader (mem_of_getElem? here)
  have kept : ∀ other ∈ cache.readers.set index changed, other.touching.Sublist other.getting ∧
      ∀ id ∈ other.pending, id ∈ cache.storage.ids := by
    intro other member
    have := sound.readers other
    grind [mem_or_eq_of_mem_set member]
  have := sound.collected
  refine { sound with
    sized := by simpa using sound.sized, readers := kept, collected := by simpa using this
    counted := fun id live => ?_ }
  obtain ⟨handled, before⟩ := sound.counted id live
  refine ⟨handled, before.writer, counted id handled _ _ (count_set id _ changed here)
    (count_set id _ changed here) ?_ before.reader⟩
  exact count_pendingTouches_le id fun other member => (kept other member).1

theorem Sound.readerStep (sound : cache.Sound) (here : cache.readers[index]? = some reader) :
    ∃ next, cache.readerStep index reader = .ok next ∧ next.Sound := by
  have := sound.readers reader (mem_of_getElem? here)
  unfold ShmCache.readerStep
  split
  next id touching rest =>
    refine ⟨_, rfl, ?_⟩
    unfold touchReader
    split
    all_goals
      refine sound.setReader here _ (by grind) (by simp [pending]) ?_
      simp only [pending, pendingTouches, Reads]
      grind
  next id getting touching rest =>
    have live := this.2 id (by simp [pending, rest])
    refine ⟨_, by rw [SingleWriterShmObjectStorage.get, if_pos live]; rfl, ?_⟩
    refine sound.setReader here _ (by simp [touching]) (by simp [pending, rest]) ?_
    simp only [pending, pendingTouches, Reads]
    grind
  next refs delivered touching getting queued =>
    refine ⟨_, rfl, sound.setReader here _ (List.Sublist.refl _) ?_ ?_⟩
    · simp [pending, queued]
    · simp only [pending, pendingTouches]
      grind
  next => exact ⟨_, rfl, sound⟩

end Reader

theorem Sound.step (sound : cache.Sound) {op : ShmOp Key} (once : cache.NewItemOnce op) :
    ∃ next, cache.step op = .ok next ∧ next.Sound := by
  cases op with
  | process mmHashes => exact ⟨_, rfl, sound.process mmHashes⟩
  | writer bufs stored => exact ⟨_, rfl, sound.writerStep bufs stored once⟩
  | deliver features => exact ⟨_, rfl, sound.deliver features⟩
  | reject => exact ⟨_, rfl, sound.reject⟩
  | reader index =>
    cases here : cache.readers[index]? with
    | none => exact ⟨cache, by simp [ShmCache.step, here], sound⟩
    | some reader => simpa [ShmCache.step, here] using sound.readerStep here

theorem Sound.progress (sound : cache.Sound) (op : ShmOp Key) :
    ∃ next, cache.step op = .ok next := by
  cases op with
  | reader index => exact (@Sound.step _ _ _ sound (.reader index) trivial).imp fun _ => And.left
  | _ => exact ⟨_, rfl⟩

theorem readBeforeFree_of_newItemOnce (nReaders : Nat) (ops : List (ShmOp Key))
    (once : Run.Meets step NewItemOnce (start nReaders) ops) :
    (∃ final, ops.foldlM step (start nReaders) = .ok final) ∧
      Run.Always step ReadBeforeFree (start nReaders) ops := by
  have sound : Run.Always step Sound (start nReaders) ops := by
    refine Run.always_of_meets (fun cache op next taken allowed before => ?_) once
      (sound_start nReaders)
    obtain ⟨_, same, after⟩ := before.step allowed
    rw [taken] at same
    exact Except.ok.inj same ▸ after
  exact ⟨sound.exists_final fun _ op before => before.progress op,
    sound.imp fun _ now _ live free => (now.unread live free).1⟩

instance (op : ShmOp Key) : Decidable (cache.NewItemOnce op) :=
  match op with
  | .writer _ _ => inferInstanceAs (Decidable (∀ mmHash ∈ cache.getting.head?,
      cache.touching = [] → cache.storage.keyIndex mmHash = none → mmHash ∉ cache.getting.tail))
  | .process _ | .deliver _ | .reject | .reader _ => isTrue trivial

theorem readBeforeFree_item_of_two_requests :
    let ops : List (ShmOp Nat) := [.process [7], .writer 0 true, .writer 0 true,
      .deliver [0], .process [7], .writer 0 true, .writer 0 true, .deliver [0], .reader 0,
      .reader 0]
    (∃ final, ops.foldlM step (start 2) = .ok final) ∧
      Run.Always step ReadBeforeFree (start 2) ops :=
  readBeforeFree_of_newItemOnce 2 _ (by decide)

-- The touches of the second reader count as reads, so the object is freed before its `get`.
theorem get_fails_repeated_item :
    List.foldlM step (start 2 : ShmCache Nat)
      ([.process [7, 7]] ++ List.replicate 4 (.writer 0 true) ++ [.deliver [0, 0]] ++
        List.replicate 5 (.reader 0) ++ List.replicate 3 (.reader 1) ++
        [.process [8], .writer 0 true, .writer 1 true, .reader 1]) =
      .error .modifiedOrInvalid := by
  rfl

end ShmCache

end VllmEngine
