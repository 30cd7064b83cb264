import Nfs3Rpc.Format.Csuite.Types

namespace Nfs3Rpc.Ownership
open Resources Encoding

variable {allocator : Allocator Address} {ledger : List (Entry Address)} {owned taken : Multiset Address} {β γ : Type}
variable {source : Source}

/-- A block with an owner can be read. -/
def Source.Within (owned : Multiset Address) (source : Source) : Prop :=
  ∀ address, source = .block address → address ∈ owned

theorem outlives_iff {freed : Pointer} (accounts : Accounts ledger (blocks freed + owned)) :
    source.Outlives freed ledger ↔ source.Within owned := by
  have either : ∀ address, held address ledger = true ↔ freed = some address ∨ address ∈ owned := by
    intro address
    rw [accounts.held_iff, Multiset.mem_add]
    cases freed with
    | none => simp [blocks]
    | some block => simp [blocks, eq_comm]
  have apart : ∀ address ∈ owned, freed ≠ some address := by
    rintro address member rfl
    exact (Multiset.nodup_cons.mp accounts.unique).1 member
  constructor
  · intro outlives address same
    obtain ⟨out, other⟩ := outlives address same
    exact ((either address).mp out).resolve_left other
  · intro within address same
    have member := within address same
    exact ⟨(either address).mpr (.inr member), apart address member⟩

theorem copyFrom_returns (present : source ≠ .null) (within : source.Within owned) :
    Returns (Accounts · owned) (copyFrom source) fun _ ledger => Accounts ledger owned := by
  cases source with
  | null => exact absurd rfl present
  | elsewhere => exact Returns.pure fun _ accounts => accounts
  | block address => exact load_returns (within address rfl)

theorem copyFrom_stops (unreadable : ¬ (source ≠ .null ∧ source.Within owned)) :
    NeverReturns (Accounts · owned) (copyFrom source) := by
  cases source with
  | null =>
      intro ledger _ value next runs
      cases runs
  | elsewhere => exact absurd ⟨Source.noConfusion, fun _ same => Source.noConfusion same⟩ unreadable
  | block address =>
      apply load_stops
      intro member
      refine unreadable ⟨Source.noConfusion, fun other same => ?_⟩
      obtain rfl := Source.block.inj same
      exact member

/-- The program trades its blocks exactly when the condition holds of the ledger where it starts. -/
structure Exact (fair : List (Entry Address) → Prop) (source : Source) (taken : Multiset Address)
    (program : Heap Address β) (left : β → Multiset Address) : Prop where
  returns : ∀ owned ledger, Accounts ledger (taken + owned) → fair ledger →
    ∃ value next, program ledger = .ok value next ∧ Accounts next (left value + owned)
  stops : ∀ owned ledger, Accounts ledger (taken + owned) → source.Known ledger → ¬ fair ledger →
    ∀ value next, program ledger ≠ .ok value next

section Exact

variable {fair : List (Entry Address) → Prop} {program : Heap Address β} {left : β → Multiset Address}

theorem Exact.of_trades (trades : Trades taken program left) : Exact (fun _ => True) source taken program left where
  returns owned ledger accounts _ := trades owned ledger accounts
  stops _ _ _ _ unfair := absurd trivial unfair

theorem Exact.frame (inner : Exact fair source taken program left) (kept : Multiset Address) :
    Exact fair source (taken + kept) program fun value => left value + kept where
  returns owned ledger accounts holds := by
    rw [add_assoc] at accounts
    obtain ⟨value, next, runs, after⟩ := inner.returns (kept + owned) ledger accounts holds
    exact ⟨value, next, runs, by rwa [add_assoc]⟩
  stops owned ledger accounts known unfair := by
    rw [add_assoc] at accounts
    exact inner.stops (kept + owned) ledger accounts known unfair

/-- What the program returns is put in its place. -/
theorem Exact.map {f : β → γ} {last : γ → Multiset Address} (inner : Exact fair source taken program left)
    (same : ∀ value, last (f value) = left value) :
    Exact fair source taken (program >>= fun value => Pure.pure (f value)) last where
  returns owned ledger accounts holds := by
    obtain ⟨value, next, runs, after⟩ := inner.returns owned ledger accounts holds
    exact ⟨f value, next, bind_of_ok runs, by rwa [same]⟩
  stops owned ledger accounts known unfair value next runs := by
    obtain ⟨found, middle, starts, _⟩ := ok_of_bind_ok runs
    exact inner.stops owned ledger accounts known unfair found middle starts

/-- A node is read before its fields are set. -/
theorem Exact.reading {address : Address} (inner : Exact fair source taken program left)
    (member : address ∈ taken) : Exact fair source taken (load (some address) >>= fun _ => program) left where
  returns owned ledger accounts holds := by
    have out := (accounts.held_iff address).mpr (Multiset.mem_add.mpr (.inl member))
    rw [bind_of_ok (load_out out)]
    exact inner.returns owned ledger accounts holds
  stops owned ledger accounts known unfair value next runs := by
    have out := (accounts.held_iff address).mpr (Multiset.mem_add.mpr (.inl member))
    rw [bind_of_ok (load_out out)] at runs
    exact inner.stops owned ledger accounts known unfair value next runs

end Exact

theorem setName_exact (field : Pointer) (name : Source) :
    Exact (name.Outlives field) name (blocks field) (setName allocator field name) blocks where
  returns owned ledger accounts outlives := by
    have within := (outlives_iff accounts).mp outlives
    have runs : Returns (Accounts · (blocks field + owned)) (setName allocator field name)
        fun p ledger => Accounts ledger (blocks p + owned) := by
      apply Returns.bind (free_returns field)
      intro _
      by_cases null : name = .null
      · rw [if_pos null]
        exact Returns.pure fun _ accounts => by rwa [blocks, zero_add]
      · rw [if_neg null]
        apply Returns.bind (copyFrom_returns null within)
        intro _
        apply Returns.bind (malloc_returns allocator)
        intro copy
        exact Returns.pure fun _ accounts => accounts
    exact runs ledger accounts
  stops owned ledger accounts known unfair := by
    have out : ¬ name.Within owned := fun within => unfair ((outlives_iff accounts).mpr within)
    have present : name ≠ .null := by
      rintro rfl
      exact out fun _ same => Source.noConfusion same
    have stops : NeverReturns (Accounts · (blocks field + owned)) (setName allocator field name) := by
      apply NeverReturns.after (free_returns field)
      intro _
      rw [if_neg present]
      exact NeverReturns.bind (copyFrom_stops fun held => out held.2)
    exact stops ledger accounts

/-- A pointer from before an allocation does not point to the new block. -/
theorem free_known (pointer : Pointer) :
    Returns (fun ledger => Accounts ledger (blocks pointer + owned) ∧ source.Known ledger) (free pointer)
      fun _ ledger => Accounts ledger owned ∧ source.Known ledger := by
  rintro ledger ⟨accounts, known⟩
  obtain ⟨⟨⟩, next, runs, after⟩ := free_returns pointer ledger accounts
  refine ⟨(), next, runs, after, ?_⟩
  cases source with
  | block address =>
      cases pointer with
      | none =>
          obtain ⟨_, rfl⟩ := EStateM.Result.ok.inj runs
          exact known
      | some block =>
          have out : held block ledger = true := (accounts.held_iff block).mpr (by simp [blocks])
          simp only [free, out, if_true] at runs
          obtain ⟨_, rfl⟩ := EStateM.Result.ok.inj runs
          exact List.mem_append_left _ known
  | null => trivial
  | elsewhere => trivial

theorem malloc_known :
    Returns (fun ledger => Accounts ledger owned ∧ source.Known ledger) (malloc allocator)
      fun block ledger => Accounts ledger ({block} + owned) ∧ source ≠ .block block := by
  rintro ledger ⟨accounts, known⟩
  obtain ⟨block, next, runs, after⟩ := malloc_returns allocator ledger accounts
  refine ⟨block, next, runs, after, ?_⟩
  rintro rfl
  obtain ⟨rfl, _⟩ := EStateM.Result.ok.inj runs
  exact allocator.fresh ledger known

theorem nfsFh3Set_exact (fh : NfsFh3T) (buf : Source) (len : UInt32) :
    Exact (fh.Fair buf len) buf fh.blocks (nfsFh3Set allocator fh buf len) NfsFh3T.blocks where
  returns owned ledger accounts fair := by
    have runs : Returns (Accounts · (fh.blocks + owned)) (nfsFh3Set allocator fh buf len)
        fun fh ledger => Accounts ledger (fh.blocks + owned) := by
      apply Returns.bind (free_returns fh.data)
      intro _
      by_cases some : len > 0
      · obtain ⟨present, outlives⟩ := fair some
        have within := (outlives_iff accounts).mp outlives
        rw [if_pos some]
        apply Returns.bind (malloc_returns allocator)
        intro data
        apply Returns.bind
          (copyFrom_returns present fun address same => Multiset.mem_add.mpr (.inr (within address same)))
        intro _
        exact Returns.pure fun _ accounts => accounts
      · rw [if_neg some]
        exact Returns.pure fun _ accounts => by rwa [NfsFh3T.blocks, blocks, zero_add]
    exact runs ledger accounts
  stops owned ledger accounts known unfair := by
    obtain ⟨some, unreadable⟩ := Classical.not_imp.mp unfair
    rw [outlives_iff accounts] at unreadable
    have stops : NeverReturns (fun ledger => Accounts ledger (fh.blocks + owned) ∧ buf.Known ledger)
        (nfsFh3Set allocator fh buf len) := by
      apply NeverReturns.after (free_known fh.data)
      intro _
      rw [if_pos some]
      apply NeverReturns.after malloc_known
      rintro data ledger ⟨accounts, other⟩
      refine NeverReturns.bind (copyFrom_stops ?_) ledger accounts
      rintro ⟨present, within⟩
      refine unreadable ⟨present, fun address same => ?_⟩
      rcases Multiset.mem_add.mp (within address same) with new | old
      · rw [Multiset.mem_singleton.mp new] at same
        exact absurd same other
      · exact old
    exact stops ledger ⟨accounts, known⟩

/-- The node keeps its block, and the rest of the list stays as it is. -/
theorem setNode_exact {ε : Type} {worth : ε → Multiset Address} {set : ε → Heap Address ε}
    {fair : List (Entry Address) → Prop} {nodes : Nodes ε} {node : Nat} {address : Address} {e : ε}
    (found : nodes[node]? = some (address, e)) (inner : Exact fair source (worth e) (set e) worth) :
    Exact fair source (nodeBlocks worth nodes) (setNode set nodes node) (nodeBlocks worth) := by
  obtain ⟨rest, before, after⟩ := sum_set (fun node : Address × ε => {node.1} + worth node.2) found
  have start : nodeBlocks worth nodes = worth e + ({address} + rest) := by
    rw [nodeBlocks, before]
    show {address} + worth e + rest = _
    rw [add_comm ({address} : Multiset Address), add_assoc]
  have placed : ∀ e, nodeBlocks worth (nodes.set node (address, e)) = worth e + ({address} + rest) := by
    intro e
    rw [nodeBlocks, after]
    show {address} + worth e + rest = _
    rw [add_comm ({address} : Multiset Address), add_assoc]
  have sets : Exact fair source (worth e + ({address} + rest))
    (set e >>= fun e => Pure.pure (nodes.set node (address, e)))
      (nodeBlocks worth) := (inner.frame ({address} + rest)).map placed
  rw [setNode, found, start]
  exact sets.reading (by simp)

/-- A node that is not there is not set. -/
theorem setNode_absent {ε : Type} {worth : ε → Multiset Address} {set : ε → Heap Address ε}
    {nodes : Nodes ε} {node : Nat}
    (absent : nodes[node]? = none) :
    Exact (fun _ => True) source (nodeBlocks worth nodes) (setNode set nodes node) (nodeBlocks worth) := by
  rw [setNode, absent]
  exact .of_trades (.pure rfl)

theorem Exact.of_iff {fair other : List (Entry Address) → Prop} {program : Heap Address β}
    {left : β → Multiset Address}
    (inner : Exact fair source taken program left) (same : ∀ ledger, other ledger ↔ fair ledger) :
    Exact other source taken program left where
  returns owned ledger accounts holds := inner.returns owned ledger accounts ((same ledger).mp holds)
  stops owned ledger accounts known unfair :=
    inner.stops owned ledger accounts known fun holds => unfair ((same ledger).mpr holds)

/-- The condition on a setter of a node speaks of a node that is there. -/
theorem setNode_everywhere {ε : Type} {worth : ε → Multiset Address} {set : ε → Heap Address ε}
    {fair : ε → List (Entry Address) → Prop} (nodes : Nodes ε) (node : Nat)
    (inner : ∀ e, Exact (fair e) source (worth e) (set e) worth) :
    Exact (fun ledger => ∀ address e, nodes[node]? = some (address, e) → fair e ledger) source
      (nodeBlocks worth nodes)
      (setNode set nodes node) (nodeBlocks worth) := by
  cases found : nodes[node]? with
  | none =>
      apply (setNode_absent found).of_iff
      intro ledger
      apply iff_of_true _ trivial
      intro _ _ same
      cases same
  | some pair =>
      obtain ⟨address, e⟩ := pair
      apply (setNode_exact found (inner e)).of_iff
      intro ledger
      constructor
      · intro holds
        exact holds address e rfl
      · intro holds other e' same
        obtain ⟨_, rfl⟩ := Prod.mk.inj (Option.some.inj same)
        exact holds

theorem setEntryName_exact (e : Entry3T) (name : Source) :
    Exact (name.Outlives e.name) name e.blocks (do
      let name ← setName allocator e.name name
      return { e with name }) Entry3T.blocks :=
  (setName_exact e.name name).map fun _ => rfl

theorem setEntryplusName_exact (e : Entryplus3T) (name : Source) :
    Exact (name.Outlives e.name) name e.blocks (do
      let name ← setName allocator e.name name
      return { e with name }) Entryplus3T.blocks :=
  ((setName_exact e.name name).frame e.nameHandle.blocks).map fun _ => rfl

theorem setEntryplusHandle_exact (e : Entryplus3T) (buf : Source) (len : UInt32) :
    Exact (e.nameHandle.Fair buf len) buf e.blocks (do
      let nameHandle ← nfsFh3Set allocator e.nameHandle buf len
      return { e with nameHandle }) Entryplus3T.blocks := by
  have start : e.blocks = e.nameHandle.blocks + blocks e.name := add_comm _ _
  rw [start]
  exact ((nfsFh3Set_exact e.nameHandle buf len).frame (blocks e.name)).map fun _ => add_comm _ _

/-- A cleared node owns nothing but its block. -/
theorem link_trades {ε : Type} {worth : ε → Multiset Address} (cleared : ε) (nothing : worth cleared = 0)
    (nodes : Nodes ε) {f : Nodes ε → Field} (same : ∀ nodes, (f nodes).blocks = nodeBlocks worth nodes) :
    Trades (nodeBlocks worth nodes) (do
      let address ← malloc allocator
      return f (nodes ++ [(address, cleared)])) fun field => field.blocks + 0 := by
  rw [← zero_add (nodeBlocks worth nodes)]
  apply Trades.andThen (malloc_trades allocator)
  intro address
  apply Trades.pure
  rw [add_zero, same, nodeBlocks, nodeBlocks, List.map_append, List.sum_append, List.map_singleton, List.sum_singleton,
    nothing, add_zero, add_comm]

theorem Field.set_exact (field : Field) (setting : Setting) :
    Exact (field.Fair · setting) setting.source field.blocks (field.set allocator setting)
      fun field' => field'.blocks + field.drops setting := by
  cases field with
  | handle fh =>
      cases setting with
      | handle buf len => exact (nfsFh3Set_exact fh buf len).map fun _ => add_zero _
      | _ => exact .of_trades (.pure (add_zero _).symm)
  | pointer p =>
      cases setting with
      | name name => exact (setName_exact p name).map fun _ => add_zero _
      | newData =>
          have trades : Trades (Resources.blocks p) (Field.set allocator (.pointer p) .newData)
              fun field' => field'.blocks + Resources.blocks p := by
            rw [← zero_add (Resources.blocks p)]
            apply Trades.andThen (malloc_trades allocator)
            intro data
            exact Trades.pure (by rw [zero_add]; rfl)
          exact .of_trades trades
      | _ => exact .of_trades (.pure (add_zero _).symm)
  | entries nodes =>
      cases setting with
      | entryName node name =>
          exact (setNode_everywhere nodes node fun e => setEntryName_exact e name).map fun _ => add_zero _
      | link =>
          exact .of_trades (@link_trades allocator _ Entry3T.blocks {} rfl nodes Field.entries fun _ => rfl)
      | _ => exact .of_trades (.pure (add_zero _).symm)
  | entriesplus nodes =>
      cases setting with
      | entryName node name =>
          exact (setNode_everywhere nodes node fun e => setEntryplusName_exact e name).map fun _ => add_zero _
      | entryHandle node buf len =>
          exact (setNode_everywhere nodes node fun e => setEntryplusHandle_exact e buf len).map fun _ => add_zero _
      | link =>
          exact .of_trades (@link_trades allocator _ Entryplus3T.blocks {} rfl nodes Field.entriesplus fun _ => rfl)
      | _ => exact .of_trades (.pure (add_zero _).symm)

theorem nfsFh3Destroy_trades (fh : NfsFh3T) : Trades fh.blocks (nfsFh3Destroy fh) fun _ => 0 :=
  (free_trades fh.data).bind fun _ => .pure rfl

theorem nfsFh3Destroy_clears (fh : NfsFh3T) (owned : Multiset Address) :
    Returns (Accounts · (fh.blocks + owned)) (nfsFh3Destroy fh) fun fh' ledger => fh'.blocks = 0 ∧
      Accounts ledger owned := by
  apply Returns.bind (free_returns fh.data)
  intro _
  exact Returns.pure fun _ accounts => ⟨rfl, accounts⟩

theorem xdrUnpackNfsFh3_trades (fh : NfsFh3T) (len : UInt32) :
    Trades fh.blocks (xdrUnpackNfsFh3 allocator fh len) NfsFh3T.blocks := by
  rw [← zero_add fh.blocks]
  apply Trades.andThen (malloc_trades allocator)
  intro d
  rw [add_comm]
  apply Trades.andThen (nfsFh3Destroy_trades fh)
  intro _
  exact .pure (zero_add _)

/-- By induction on the list: each node goes with its fields, after the nodes behind it. -/
theorem destroyNodes_trades {ε : Type} {worth : ε → Multiset Address} {destroyFields : ε → Heap Address Unit}
    (fields : ∀ e, Trades (worth e) (destroyFields e) fun _ => 0) (nodes : Nodes ε) :
    Trades (nodeBlocks worth nodes) (destroyNodes destroyFields nodes) fun _ => 0 := by
  induction nodes with
  | nil => exact .pure rfl
  | cons node nextentry recurse =>
      obtain ⟨address, e⟩ := node
      have start : nodeBlocks worth ((address, e) :: nextentry) =
        {address} + (worth e + nodeBlocks worth nextentry) := by
        rw [nodeBlocks, List.map_cons, List.sum_cons, ← nodeBlocks, add_assoc]
      rw [start]
      apply Trades.andThen load_trades
      intro _
      rw [add_left_comm]
      apply Trades.andThen (fields e)
      intro _
      rw [zero_add, add_comm]
      apply Trades.andThen recurse
      intro _
      rw [zero_add]
      exact free_trades (some address)

theorem unpackNodes_trades {ε τ : Type} {worth : ε → Multiset Address} {unpackFields : τ → Heap Address ε}
    (fields : ∀ wire, Trades 0 (unpackFields wire) worth) (wires : List τ) :
    Trades 0 (unpackNodes allocator unpackFields wires) (nodeBlocks worth) := by
  induction wires with
  | nil => exact .pure rfl
  | cons wire wires recurse =>
      apply Trades.bind (malloc_trades allocator)
      intro address
      rw [← zero_add ({address} : Multiset Address)]
      apply Trades.andThen (fields wire)
      intro e
      rw [← zero_add (worth e + {address})]
      apply Trades.andThen recurse
      intro nextentry
      apply Trades.pure
      rw [nodeBlocks, nodeBlocks, List.map_cons, List.sum_cons, add_comm, add_comm (worth e)]

theorem entry3Destroy_trades (nodes : Nodes Entry3T) :
    Trades (nodeBlocks Entry3T.blocks nodes) (entry3Destroy nodes) fun _ => 0 :=
  @destroyNodes_trades _ Entry3T.blocks _ (fun e => free_trades e.name) nodes

theorem entryplus3Destroy_trades (nodes : Nodes Entryplus3T) :
    Trades (nodeBlocks Entryplus3T.blocks nodes) (entryplus3Destroy nodes) fun _ => 0 := by
  apply destroyNodes_trades
  intro e
  apply Trades.andThen (free_trades e.name)
  intro _
  rw [zero_add]
  exact (nfsFh3Destroy_trades e.nameHandle).bind fun _ => .pure rfl

theorem xdrUnpackEntry3_trades (wires : List Unit) :
    Trades 0 (xdrUnpackEntry3 allocator wires) (nodeBlocks Entry3T.blocks) := by
  apply unpackNodes_trades
  intro _
  exact (malloc_trades allocator).bind fun _ => .pure rfl

theorem xdrUnpackEntryplus3_trades (wires : List (Option UInt32)) :
    Trades 0 (xdrUnpackEntryplus3 allocator wires) (nodeBlocks Entryplus3T.blocks) := by
  apply unpackNodes_trades
  intro handle
  apply Trades.bind (malloc_trades allocator)
  intro name
  cases handle with
  | none => exact Trades.pure (add_zero _).symm
  | some len =>
      rw [← zero_add ({name} : Multiset Address)]
      apply Trades.andThen (xdrUnpackNfsFh3_trades {} len)
      intro nameHandle
      exact .pure (add_comm _ _)

/-- A destroyed field has no blocks. -/
theorem Field.destroy_clears (field : Field) (owned : Multiset Address) :
    Returns (Accounts · (field.blocks + owned)) field.destroy fun field' ledger =>
      field'.blocks = 0 ∧ Accounts ledger owned := by
  cases field with
  | handle fh =>
      apply Returns.bind (nfsFh3Destroy_clears fh owned)
      intro fh'
      exact Returns.pure fun _ held => held
  | pointer p =>
      apply Returns.bind (free_returns p)
      intro _
      exact Returns.pure fun _ accounts => ⟨rfl, accounts⟩
  | entries nodes =>
      apply Returns.bind (entry3Destroy_trades nodes owned)
      intro _
      exact Returns.pure fun _ accounts => ⟨rfl, by rwa [zero_add] at accounts⟩
  | entriesplus nodes =>
      apply Returns.bind (entryplus3Destroy_trades nodes owned)
      intro _
      exact Returns.pure fun _ accounts => ⟨rfl, by rwa [zero_add] at accounts⟩

theorem destroyFields_clears (fields : Fields) (owned : Multiset Address) :
    Returns (Accounts · (fields.blocks + owned)) (destroyFields fields) fun fields' ledger =>
      Fields.blocks fields' = 0 ∧ Accounts ledger owned := by
  induction fields with
  | nil => exact Returns.pure fun _ accounts =>
      ⟨rfl, by rwa [Fields.blocks, List.map_nil, List.sum_nil, zero_add] at accounts⟩
  | cons field fields recurse =>
      have start : Fields.blocks (field :: fields) + owned = field.blocks + (Fields.blocks fields + owned) := by
        rw [Fields.blocks, List.map_cons, List.sum_cons, ← Fields.blocks, add_assoc]
      rw [start]
      apply Returns.bind (field.destroy_clears _)
      rintro field' ledger ⟨cleared, accounts⟩
      apply Returns.bind recurse _ ledger accounts
      rintro fields' ledger ⟨allCleared, accounts⟩
      refine ⟨field' :: fields', ledger, rfl, ?_, accounts⟩
      rw [Fields.blocks, List.map_cons, List.sum_cons, ← Fields.blocks, cleared, allCleared, add_zero]

theorem Field.unpack_trades (field : Field) (part : Part) :
    Trades field.blocks (field.unpack allocator part) fun field' => field'.blocks + field.overwritten part := by
  have kept : Trades field.blocks (Pure.pure field : Heap Address Field) fun field' => field'.blocks + 0 :=
    .pure (add_zero _).symm
  cases field with
  | handle fh =>
      cases part with
      | bytes len => exact (xdrUnpackNfsFh3_trades fh len).bind fun _ => .pure (add_zero _).symm
      | _ => exact kept
  | pointer p =>
      cases part with
      | bytes len =>
          have start : (Field.pointer p).blocks = 0 + Resources.blocks p := (zero_add _).symm
          rw [start]
          apply Trades.andThen (malloc_trades allocator)
          intro s
          exact .pure rfl
      | _ => exact kept
  | entries nodes =>
      cases part with
      | entries wires =>
          cases wires with
          | nil => exact kept
          | cons wire wires =>
              have start : (Field.entries nodes).blocks = 0 + nodeBlocks Entry3T.blocks nodes := (zero_add _).symm
              rw [start]
              apply Trades.andThen (xdrUnpackEntry3_trades (wire :: wires))
              intro unpacked
              exact .pure rfl
      | _ => exact kept
  | entriesplus nodes =>
      cases part with
      | entriesplus wires =>
          cases wires with
          | nil => exact kept
          | cons wire wires =>
              have start : (Field.entriesplus nodes).blocks = 0 + nodeBlocks Entryplus3T.blocks nodes :=
                (zero_add _).symm
              rw [start]
              apply Trades.andThen (xdrUnpackEntryplus3_trades (wire :: wires))
              intro unpacked
              exact .pure rfl
      | _ => exact kept

/-- A decoder of arguments loses no block. -/
theorem Field.replace_trades (field : Field) (part : Part) :
    Trades field.blocks (field.replace allocator part) fun field' => field'.blocks + 0 := by
  have kept : Trades field.blocks (Pure.pure field : Heap Address Field) fun field' => field'.blocks + 0 :=
    .pure (add_zero _).symm
  cases field with
  | handle fh =>
      cases part with
      | bytes len => exact (xdrUnpackNfsFh3_trades fh len).bind fun _ => .pure (add_zero _).symm
      | _ => exact kept
  | pointer p =>
      cases part with
      | bytes len =>
          apply Trades.bind (free_trades p)
          intro _
          apply Trades.bind (malloc_trades allocator)
          intro s
          exact .pure (add_zero _).symm
      | _ => exact kept
  | entries nodes =>
      cases part with
      | _ => exact kept
  | entriesplus nodes =>
      cases part with
      | _ => exact kept

/-- By induction on the fields: each field trades its own blocks, and the lost ones add up. -/
theorem unpackFields_trades {unpackField : Field → Part → Heap Address Field}
    {lost : Field → Part → Multiset Address}
    (each : ∀ field part, Trades field.blocks (unpackField field part) fun field' => field'.blocks + lost field part)
    (fields : Fields) (parts : List Part) :
    Trades fields.blocks (unpackFields unpackField fields parts) fun fields' =>
      Fields.blocks fields' + (List.zipWith lost fields parts).sum := by
  induction fields generalizing parts with
  | nil => exact .pure (add_zero _).symm
  | cons field fields recurse =>
      cases parts with
      | nil => exact .pure (add_zero _).symm
      | cons part parts =>
          apply Trades.andThen (each field part)
          intro field'
          rw [add_comm]
          apply Trades.andThen (recurse parts)
          intro fields'
          apply Trades.pure
          rw [List.zipWith_cons_cons, List.sum_cons]
          show _ = field'.blocks + Fields.blocks fields' + _
          rw [add_comm, add_add_add_comm]

theorem replaceFields_trades (fields : Fields) (parts : List Part) :
    Trades fields.blocks (unpackFields (Field.replace allocator) fields parts) fun fields' =>
      Fields.blocks fields' + 0 := by
  have trades := @unpackFields_trades _ (fun _ _ => 0) (@Field.replace_trades allocator) fields parts
  have nothing : (List.zipWith (fun (_ : Field) (_ : Part) => (0 : Multiset Address)) fields parts).sum = 0 := by
    rw [← List.map_uncurry_zip_eq_zipWith]
    apply List.sum_eq_zero
    intro lost member
    obtain ⟨_, _, rfl⟩ := List.mem_map.mp member
    rfl
  rwa [nothing] at trades

/-- Only blocks of the fields are overwritten. -/
theorem Field.overwritten_le (field : Field) (part : Part) : field.overwritten part ≤ field.blocks := by
  cases field with
  | handle fh => exact Multiset.zero_le _
  | pointer p =>
      cases part with
      | bytes len => exact le_rfl
      | _ => exact Multiset.zero_le _
  | entries nodes =>
      cases part with
      | entries wires =>
          cases wires with
          | nil => exact Multiset.zero_le _
          | cons wire wires => exact le_rfl
      | _ => exact Multiset.zero_le _
  | entriesplus nodes =>
      cases part with
      | entriesplus wires =>
          cases wires with
          | nil => exact Multiset.zero_le _
          | cons wire wires => exact le_rfl
      | _ => exact Multiset.zero_le _

theorem overwritten_le (fields : Fields) (parts : List Part) : overwritten fields parts ≤ fields.blocks := by
  induction fields generalizing parts with
  | nil => exact le_rfl
  | cons field fields recurse =>
      cases parts with
      | nil => exact Multiset.zero_le _
      | cons part parts => exact add_le_add (field.overwritten_le part) (recurse parts)

/-- The decoder of a result has nothing to overwrite. -/
theorem unpackFresh_trades (fields : Fields) (parts : List Part) :
    Trades fields.blocks (do
      let fields ← destroyFields fields
      unpackFields (Field.unpack allocator) fields parts) fun fields' => Fields.blocks fields' + 0 := by
  intro owned
  apply Returns.bind (destroyFields_clears fields owned)
  rintro cleared ledger ⟨nothing, accounts⟩
  have none : overwritten cleared parts = 0 := Multiset.le_zero.mp (nothing ▸ overwritten_le cleared parts)
  rw [← zero_add owned, ← nothing] at accounts
  have trades := unpackFields_trades (@Field.unpack_trades allocator) cleared parts
  rw [← overwritten, none] at trades
  exact trades owned ledger accounts

theorem StructT.unpack_trades (struct : StructT) (fields : Fields) (parts : List Part) :
    Trades fields.blocks (struct.unpack allocator fields parts) fun fields' =>
      Fields.blocks fields' + struct.overwritten fields parts := by
  cases struct with
  | LOOKUP3res => exact unpackFresh_trades fields parts
  | READ3res => exact unpackFresh_trades fields parts
  | CREATE3res => exact unpackFresh_trades fields parts
  | READLINK3res => exact unpackFresh_trades fields parts
  | MKDIR3res => exact unpackFresh_trades fields parts
  | SYMLINK3res => exact unpackFresh_trades fields parts
  | MKNOD3res => exact unpackFresh_trades fields parts
  | READDIR3res => exact unpackFresh_trades fields parts
  | READDIRPLUS3res => exact unpackFresh_trades fields parts
  | entry3 => exact unpackFields_trades Field.unpack_trades fields parts
  | entryplus3 => exact .pure (add_zero _).symm
  | _ => exact replaceFields_trades fields parts

theorem StructT.init_blocks (struct : StructT) : Fields.blocks struct.init = 0 := by
  cases struct <;> rfl

/-- A setting of a field that is there, from a pointer that the program has, is a setting of the structure. -/
theorem Action.set_run {item : Item} {index : Nat} {setting : Setting} {field : Field}
    (found : item.fields[index]? = some field) (known : setting.source.Known ledger) :
    Action.run allocator item (.set index setting) ledger = (do
      let field ← field.set allocator setting
      return { item with fields := item.fields.set index field } : Heap Address Item) ledger := by
  have reads : (get : Heap Address (List (Entry Address))) ledger = .ok ledger ledger := rfl
  rw [Action.run, bind_of_ok reads, found]
  dsimp only
  rw [if_pos known]

theorem Action.set_idle {item : Item} {index : Nat} {setting : Setting}
    (idle : item.fields[index]? = none ∨ ¬ setting.source.Known ledger) :
    Action.run allocator item (.set index setting) ledger = .ok item ledger ∧
      Action.drops ledger item (.set index setting) = 0 := by
  have reads : (get : Heap Address (List (Entry Address))) ledger = .ok ledger ledger := rfl
  rw [Action.run, bind_of_ok reads, Action.drops]
  cases found : item.fields[index]? with
  | none => exact ⟨rfl, rfl⟩
  | some field =>
      have unknown : ¬ setting.source.Known ledger := idle.resolve_left (by simp [found])
      dsimp only
      rw [if_neg unknown, if_neg unknown]
      exact ⟨rfl, rfl⟩

/-- A field of a structure is set exactly as it is set alone. -/
theorem Action.set_exact {item : Item} {index : Nat} {setting : Setting} {field : Field}
    (found : item.fields[index]? = some field) :
    Exact (field.Fair · setting) setting.source item.blocks (do
      let field ← field.set allocator setting
      return { item with fields := item.fields.set index field } : Heap Address Item)
      fun item' => item'.blocks + field.drops setting := by
  obtain ⟨rest, before, after⟩ := sum_set Field.blocks found
  have start : item.blocks = field.blocks + rest := before
  rw [start]
  apply ((field.set_exact setting).frame rest).map
  intro field'
  have ends : Item.blocks { item with fields := item.fields.set index field' } = field'.blocks + rest := after field'
  rw [ends, add_right_comm]

/-- A fair action returns, and the blocks that it drops are out without an owner. -/
theorem Action.run_returns {item : Item} {action : Action} (accounts : Accounts ledger (item.blocks + owned))
    (fair : action.Fair ledger item) :
    ∃ item' next, action.run allocator item ledger = .ok item' next ∧
      Accounts next (item'.blocks + (action.drops ledger item + owned)) := by
  cases action with
  | init =>
      refine ⟨{ item with fields := item.struct.init }, ledger, rfl, ?_⟩
      have cleared : Item.blocks { item with fields := item.struct.init } = 0 := item.struct.init_blocks
      rw [cleared, zero_add]
      exact accounts
  | destroy =>
      obtain ⟨fields, next, runs, cleared, after⟩ := destroyFields_clears item.fields owned ledger accounts
      refine ⟨{ item with fields }, next, bind_of_ok runs, ?_⟩
      have nothing : Item.blocks { item with fields } = 0 := cleared
      rw [nothing, zero_add, Action.drops, zero_add]
      exact after
  | set index setting =>
      cases found : item.fields[index]? with
      | none =>
          obtain ⟨idle, none⟩ := @Action.set_idle allocator ledger item index setting (.inl found)
          exact ⟨item, ledger, idle, by rwa [none, zero_add]⟩
      | some field =>
          by_cases known : setting.source.Known ledger
          · obtain ⟨item', next, runs, after⟩ :=
              (Action.set_exact found).returns owned ledger accounts (fair field found known)
            refine ⟨item', next, (Action.set_run found known).trans runs, ?_⟩
            have drops : Action.drops ledger item (.set index setting) = field.drops setting := by
              rw [Action.drops, found]
              exact if_pos known
            rwa [drops, ← add_assoc]
          · obtain ⟨idle, none⟩ := @Action.set_idle allocator ledger item index setting (.inr known)
            exact ⟨item, ledger, idle, by rwa [none, zero_add]⟩
  | unpack parts =>
      obtain ⟨fields, next, runs, after⟩ := item.struct.unpack_trades item.fields parts owned ledger accounts
      refine ⟨{ item with fields }, next, bind_of_ok runs, ?_⟩
      rwa [add_assoc] at after

theorem Action.run_stops {item : Item} {action : Action} (accounts : Accounts ledger (item.blocks + owned))
    (unfair : ¬ action.Fair ledger item) (item' : Item) (next : List (Entry Address)) :
    action.run allocator item ledger ≠ .ok item' next := by
  cases action with
  | set index setting =>
      simp only [Action.Fair, not_forall] at unfair
      obtain ⟨field, found, known, unfair⟩ := unfair
      rw [Action.set_run found known]
      exact (Action.set_exact found).stops owned ledger accounts known unfair item' next
  | _ => exact absurd trivial unfair

theorem World.step_returns {world : World} {call : Call} (accounts : Accounts world.ledger (world.blocks + owned))
    (fair : call.Fair world) :
    ∃ next, world.step allocator call = .ok next ∧
      Accounts next.ledger (next.blocks + (call.drops world + owned)) := by
  cases call with
  | declare struct =>
      refine ⟨_, rfl, ?_⟩
      have same : World.blocks { world with items := world.items ++ [⟨struct, struct.init⟩] } = world.blocks := by
        have cleared : Item.blocks ⟨struct, struct.init⟩ = 0 := struct.init_blocks
        rw [World.blocks, List.map_append, List.sum_append, List.map_singleton, List.sum_singleton, cleared, add_zero,
          ← World.blocks]
      rw [same, Call.drops, zero_add]
      exact accounts
  | act number action =>
      rw [World.step, Call.drops]
      cases found : world.items[number]? with
      | none =>
          refine ⟨world, rfl, ?_⟩
          rw [zero_add]
          exact accounts
      | some item =>
          obtain ⟨rest, before, after⟩ := sum_set Item.blocks found
          have start : world.blocks = item.blocks + rest := before
          rw [start, add_assoc] at accounts
          obtain ⟨item', ledger, runs, owns⟩ := @Action.run_returns allocator _ _ _ _ accounts (fair item found)
          refine ⟨{ items := world.items.set number item', ledger }, by simp only [runs], ?_⟩
          have ends : World.blocks { items := world.items.set number item', ledger } = item'.blocks + rest :=
            after item'
          rwa [ends, add_assoc, add_left_comm rest]

theorem World.step_stops {world : World} {call : Call} (accounts : Accounts world.ledger (world.blocks + owned))
    (unfair : ¬ call.Fair world) (next : World) : world.step allocator call ≠ .ok next := by
  cases call with
  | declare struct => exact absurd trivial unfair
  | act number action =>
      simp only [Call.Fair, not_forall] at unfair
      obtain ⟨item, found, unfair⟩ := unfair
      obtain ⟨rest, before, _⟩ := sum_set Item.blocks found
      have start : world.blocks = item.blocks + rest := before
      rw [start, add_assoc] at accounts
      intro runs
      rw [World.step, found] at runs
      dsimp only at runs
      split at runs
      · rename_i item' ledger acts
        exact Action.run_stops accounts unfair item' ledger acts
      · cases runs

/-- By induction on the calls: the run ends exactly when each call is fair, and the blocks that are out are those of the
structures and those that were dropped. -/
theorem World.run_spec {calls : List Call} {world : World} (accounts : Accounts world.ledger (world.blocks + owned)) :
    (FairRun allocator world calls ↔ ∃ last, world.run allocator calls = .ok last) ∧
      ∀ last, world.run allocator calls = .ok last →
        Accounts last.ledger (last.blocks + (leaked allocator world calls + owned)) := by
  induction calls generalizing world owned with
  | nil =>
      refine ⟨iff_of_true trivial ⟨world, rfl⟩, ?_⟩
      intro last ends
      obtain rfl := Except.ok.inj ends
      rwa [leaked, zero_add]
  | cons call calls recurse =>
      by_cases fair : call.Fair world
      · obtain ⟨next, steps, owns⟩ := @World.step_returns allocator _ _ _ accounts fair
        obtain ⟨same, ends⟩ := recurse owns
        have runs : world.run allocator (call :: calls) = next.run allocator calls := by rw [World.run, steps]
        have drops : leaked allocator world (call :: calls) = call.drops world + leaked allocator next calls := by
          rw [leaked, steps]
        rw [runs, drops, ← same]
        constructor
        · constructor
          · intro whole
            exact whole.2 next steps
          · intro rest
            refine ⟨fair, fun other steps' => ?_⟩
            rw [steps] at steps'
            exact Except.ok.inj steps' ▸ rest
        · intro last lastRuns
          have owns := ends last lastRuns
          rwa [add_left_comm (leaked allocator next calls), ← add_assoc (call.drops world)] at owns
      · have stops : ∀ last, world.run allocator (call :: calls) ≠ .ok last := by
          intro last runs
          rw [World.run] at runs
          split at runs
          · cases runs
          · rename_i next steps
            exact World.step_stops accounts fair next steps
        refine ⟨iff_of_false (fun whole => fair whole.1) ?_, fun last runs => absurd runs (stops last)⟩
        rintro ⟨last, runs⟩
        exact stops last runs

theorem World.run_append {calls later : List Call} {world next : World} (runs : world.run allocator calls = .ok next) :
    world.run allocator (calls ++ later) = next.run allocator later := by
  induction calls generalizing world with
  | nil =>
      obtain rfl := Except.ok.inj runs
      rfl
  | cons call calls recurse =>
      rw [World.run] at runs
      rw [List.cons_append, World.run]
      split at runs
      · cases runs
      · exact recurse runs

/-- A structure that is destroyed owns nothing. -/
theorem World.destroy_step {world : World} {number : Nat} (inside : number < world.items.length)
    (accounts : Accounts world.ledger (world.blocks + owned)) :
    ∃ item ledger, world.step allocator (.act number .destroy) =
      .ok { items := world.items.set number item, ledger } ∧
      item.blocks = 0 ∧ Accounts ledger (World.blocks { items := world.items.set number item, ledger } + owned) := by
  have found : world.items[number]? = some world.items[number] := List.getElem?_eq_getElem inside
  obtain ⟨rest, before, after⟩ := sum_set Item.blocks found
  have start : world.blocks = world.items[number].blocks + rest := before
  rw [start, add_assoc] at accounts
  obtain ⟨fields, ledger, runs, cleared, owns⟩ :=
    destroyFields_clears world.items[number].fields (rest + owned) world.ledger
    accounts
  refine ⟨{ world.items[number] with fields }, ledger, ?_, cleared, ?_⟩
  · have acts : Action.run allocator world.items[number] .destroy world.ledger =
        .ok { world.items[number] with fields } ledger := bind_of_ok runs
    rw [World.step, found]
    simp only [acts]
  · have ends : World.blocks { items := world.items.set number { world.items[number] with fields }, ledger } =
        Item.blocks { world.items[number] with fields } + rest := after _
    have nothing : Item.blocks { world.items[number] with fields } = 0 := cleared
    rw [ends, nothing, zero_add]
    exact owns

/-- By induction on the number of structures: those that are destroyed own nothing, and the others are as they were. -/
theorem destroyAll_run {world : World} (accounts : Accounts world.ledger (world.blocks + owned)) (count : Nat)
    (inside : count ≤ world.items.length) :
    ∃ last, world.run allocator (destroyAll count) = .ok last ∧ Accounts last.ledger (last.blocks + owned) ∧
      last.items.length = world.items.length ∧ ∀ index < count, ∀ item, last.items[index]? = some item →
        item.blocks = 0 := by
  induction count with
  | zero => exact ⟨world, rfl, accounts, rfl, fun _ small => absurd small (Nat.not_lt_zero _)⟩
  | succ count recurse =>
      obtain ⟨last, runs, owns, length, cleared⟩ := recurse (by omega)
      obtain ⟨item, ledger, steps, nothing, owns⟩ := @World.destroy_step allocator owned last count (by omega) owns
      refine ⟨{ items := last.items.set count item, ledger }, ?_, owns, by rw [List.length_set, length], ?_⟩
      · have split : destroyAll (count + 1) = destroyAll count ++ [.act count .destroy] := by
          rw [destroyAll, List.range_succ, List.map_append, List.map_singleton, ← destroyAll]
        rw [split, World.run_append runs, World.run, steps]
        rfl
      · intro index small other found
        rw [List.getElem?_set] at found
        by_cases here : count = index
        · rw [if_pos here, if_pos (by omega)] at found
          rwa [← Option.some.inj found]
        · rw [if_neg here] at found
          exact cleared index (by omega) other found

/-- Over any run no block is freed twice, and none is read after it was freed or through null, exactly when no setter
copies a handle from null, or a block that is not out once it has freed its own. The blocks that are out each have one
owner or were dropped, and once each structure is destroyed only those that were dropped are out. -/
theorem types_run (allocator : Allocator Address) (calls : List Call) :
    (FairRun allocator {} calls ↔ ∃ world, World.run allocator {} calls = .ok world) ∧
      ∀ world, World.run allocator {} calls = .ok world →
        Accounts world.ledger (world.blocks + leaked allocator {} calls) ∧
        ∃ last, world.run allocator (destroyAll world.items.length) = .ok last ∧
          Accounts last.ledger (leaked allocator {} calls) := by
  have start : Accounts ({} : World).ledger (World.blocks {} + 0) := Accounts.empty
  obtain ⟨same, ends⟩ := @World.run_spec allocator 0 calls {} start
  refine ⟨same, fun world runs => ?_⟩
  have owns := ends world runs
  rw [add_zero] at owns
  obtain ⟨last, destroys, owned, length, cleared⟩ := @destroyAll_run allocator _ world owns _ le_rfl
  refine ⟨owns, last, destroys, ?_⟩
  have nothing : last.blocks = 0 := by
    apply List.sum_eq_zero
    intro worth member
    obtain ⟨item, inside, rfl⟩ := List.mem_map.mp member
    obtain ⟨index, small, rfl⟩ := List.getElem_of_mem inside
    exact cleared index (by omega) _ (List.getElem?_eq_getElem small)
  rwa [nothing, zero_add] at owned

def blockNumber : Entry Address → Nat
  | .acquired address | .released address => address

/-- This allocator goes beyond all the names that it has seen. -/
def counting : Allocator Address where
  next := fun ledger => (ledger.map blockNumber).sum + 1
  fresh := by
    intro ledger seen
    have small : (ledger.map blockNumber).sum + 1 ≤ (ledger.map blockNumber).sum :=
      List.le_sum_of_mem (List.mem_map_of_mem seen)
    omega

/-- The decoder of an entry loses the name that was set before. -/
example : leaked counting {} [.declare .entry3, .act 0 (.set 0 (.name .elsewhere)), .act 0 (.unpack [.bytes 3])] =
    {1} := by decide

/-- The decoder of arguments does not. -/
example : leaked counting {} [.declare .LOOKUP3args, .act 0 (.set 1 (.name .elsewhere)),
    .act 0 (.unpack [.bytes 4, .bytes 3])] = 0 := by decide

end Nfs3Rpc.Ownership
