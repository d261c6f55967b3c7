import Mathlib.Data.List.Induction
import Loggaper.Autobuy.WalletRegistry
import Loggaper.Lib.Value

/-!
# Saving wallets over HTTP

`PUT /wallets` changes the settings of the wallets that the request names, in memory and in the
configuration file. The registry is changed first: where the file cannot be read, parsed or written,
and where it was edited since the start, the two drift apart.

- `keepsRest_iff`: when a request leaves the rest of the file as it was, from any file and registry.
  The handler writes only the wallets of the request, with the registry's fields and without a node
  or a demo balance of their own.
- `inStep_puts`: after a start and any requests that could be written, the file and the registry
  agree on the wallets they share.
-/

namespace Loggaper

/-! ## The wallets in the file -/

namespace WalletTierSize

def toValue (t : WalletTierSize) : Value :=
  .map [("a_sol", .num t.aSol), ("a_plus_sol", .num t.aPlusSol), ("b_sol", .num t.bSol)]

def fromValue (v : Value) : Option WalletTierSize := do
  let aSol ← v.field "a_sol" Value.asNum
  let aPlusSol ← v.field "a_plus_sol" Value.asNum
  let bSol ← v.fieldOr "b_sol" Value.asNum (1 / 5)
  some { aSol, aPlusSol, bSol }

theorem fromValue_toValue (t : WalletTierSize) : fromValue t.toValue = some t := rfl

end WalletTierSize

namespace WalletEntryConfig

def toValue (e : WalletEntryConfig) : Value :=
  .map [
    ("id", .str e.id),
    ("label", .str e.label),
    ("enabled", .bool e.enabled),
    ("private_key_env", .str e.privateKeyEnv),
    ("size_sol", .ofOption .num e.sizeSol),
    ("tier_size", .ofOption WalletTierSize.toValue e.tierSize),
    ("demo_balance_sol", .ofOption .num e.demoBalanceSol),
    ("rpc_url_env", .ofOption .str e.rpcUrlEnv)]

def fromValue (v : Value) : Option WalletEntryConfig := do
  let id ← v.field "id" Value.asStr
  let label ← v.fieldOr "label" Value.asStr ""
  let enabled ← v.fieldOr "enabled" Value.asBool true
  let privateKeyEnv ← v.field "private_key_env" Value.asStr
  let sizeSol ← v.fieldOr "size_sol" (Value.nullable Value.asNum) none
  let tierSize ← v.fieldOr "tier_size" (Value.nullable WalletTierSize.fromValue) none
  let demoBalanceSol ← v.fieldOr "demo_balance_sol" (Value.nullable Value.asNum) none
  let rpcUrlEnv ← v.fieldOr "rpc_url_env" (Value.nullable Value.asStr) none
  some {
    id, label, enabled, privateKeyEnv, sizeSol, tierSize, demoBalanceSol, rpcUrlEnv }

/-- What is written is read back, all fields of it. -/
theorem fromValue_toValue (e : WalletEntryConfig) : fromValue e.toValue = some e := by
  obtain ⟨id, label, enabled, env, size, tier, demo, rpc⟩ := e
  cases size <;> cases tier <;> cases demo <;> cases rpc <;> rfl

end WalletEntryConfig

/-- The `wallets` section of the configuration; a file without it has none. -/
def loadWallets (file : Value) : Option (List WalletEntryConfig) :=
  file.fieldOr "wallets" (fun v => v.asSeq.bind (List.mapM WalletEntryConfig.fromValue)) []

/-- What the file holds: a document, or the parser's error. -/
abbrev YamlFile := Except String Value

/-- What the disk and the YAML library answer while the section is replaced. -/
structure DiskAnswers where
  /-- `read_to_string` fails. -/
  readError : Option String := none
  /-- `to_value` fails. -/
  valueError : Option String := none
  /-- `to_string` fails. -/
  serializeError : Option String := none
  /-- `write` fails, and leaves this in the file. -/
  writeError : Option (String × YamlFile) := none

/-- Every call succeeds. -/
def DiskAnswers.Fine (disk : DiskAnswers) : Prop :=
  disk.readError = none ∧ disk.valueError = none ∧ disk.serializeError = none ∧
    disk.writeError = none

/-- A call that gives nothing but its error. -/
def orError (error : Option String) (text : String → String) : Except String Unit :=
  match error with
  | some e => .error (text e)
  | none => .ok ()

/-- `map.insert`, when the root has fields. -/
def insertWallets (doc : Value) (wallets : List WalletEntryConfig) : Except String Value :=
  match doc.insert "wallets" (.seq (wallets.map WalletEntryConfig.toValue)) with
  | some doc => .ok doc
  | none => .error "root yaml is not a mapping"

/-- The document to write. -/
def rewrittenDoc (disk : DiskAnswers) (path : String) (file : YamlFile)
    (wallets : List WalletEntryConfig) : Except String Value := do
  orError disk.readError fun e => s!"read {path}: {e}"
  let doc ← file.mapError fun e => s!"parse yaml: {e}"
  orError disk.valueError fun e => s!"wallets value: {e}"
  let doc ← insertWallets doc wallets
  orError disk.serializeError fun e => s!"serialize: {e}"
  pure doc

/-- Replace the `wallets` section: the result, and what the file holds then. -/
def rewriteYamlWallets (disk : DiskAnswers) (path : String) (file : YamlFile)
    (wallets : List WalletEntryConfig) : Except String Unit × YamlFile :=
  match rewrittenDoc disk path file wallets with
  | .error e => (.error e, file)
  | .ok doc =>
    match disk.writeError with
    | some (e, left) => (.error s!"write {path}: {e}", left)
    | none => (.ok (), .ok doc)

theorem insertWallets_ok_iff {doc doc' : Value} {wallets : List WalletEntryConfig} :
    insertWallets doc wallets = .ok doc' ↔
      doc.insert "wallets" (.seq (wallets.map WalletEntryConfig.toValue)) = some doc' := by
  unfold insertWallets
  cases doc.insert "wallets" (.seq (wallets.map WalletEntryConfig.toValue)) with
  | none => exact iff_of_false nofun nofun
  | some doc'' => rw [Except.ok.injEq, Option.some.injEq]

theorem orError_ok_iff {error : Option String} {text : String → String} {u : Unit} :
    orError error text = .ok u ↔ error = none := by
  cases error with
  | none => exact iff_of_true rfl rfl
  | some e => exact iff_of_false nofun nofun

theorem bind_ok_iff {ε α β : Type} {x : Except ε α} {f : α → Except ε β} {b : β} :
    x >>= f = .ok b ↔ ∃ a, x = .ok a ∧ f a = .ok b := by
  cases x with
  | error e => exact iff_of_false nofun nofun
  | ok a => simp [bind, Except.bind]

theorem parsed_ok_iff {file : YamlFile} {text : String → String} {doc : Value} :
    file.mapError text = .ok doc ↔ file = .ok doc := by
  cases file with
  | error e => exact iff_of_false nofun nofun
  | ok doc' => exact Iff.rfl

theorem rewrittenDoc_ok_iff {disk : DiskAnswers} {path : String} {file : YamlFile}
    {wallets : List WalletEntryConfig} {doc' : Value} :
    rewrittenDoc disk path file wallets = .ok doc' ↔
      disk.readError = none ∧ disk.valueError = none ∧ disk.serializeError = none ∧
        ∃ doc, file = .ok doc ∧ insertWallets doc wallets = .ok doc' := by
  simp only [rewrittenDoc, bind_ok_iff, orError_ok_iff, parsed_ok_iff, pure, Except.pure,
    Except.ok.injEq]
  constructor
  · rintro ⟨_, hread, doc, hfile, _, hvalue, _, hdoc, _, hserialize, rfl⟩
    exact ⟨hread, hvalue, hserialize, doc, hfile, hdoc⟩
  · rintro ⟨hread, hvalue, hserialize, doc, hfile, hdoc⟩
    exact ⟨(), hread, doc, hfile, (), hvalue, doc', hdoc, (), hserialize, rfl⟩

/-- A rewrite succeeds when every call does and the root has fields; it leaves the document with
the new section. -/
theorem rewriteYamlWallets_ok_iff {disk : DiskAnswers} (path : String) {file file' : YamlFile}
    {wallets : List WalletEntryConfig} :
    rewriteYamlWallets disk path file wallets = (.ok (), file') ↔
      disk.Fine ∧ ∃ doc doc', file = .ok doc ∧ insertWallets doc wallets = .ok doc' ∧
        file' = .ok doc' := by
  unfold rewriteYamlWallets DiskAnswers.Fine
  constructor
  · intro h
    split at h
    case h_1 => cases h
    case h_2 doc' hdoc' =>
      obtain ⟨hread, hvalue, hserialize, doc, hfile, hdoc⟩ := rewrittenDoc_ok_iff.mp hdoc'
      split at h
      case h_1 => cases h
      case h_2 hwrite =>
        cases h
        exact ⟨⟨hread, hvalue, hserialize, hwrite⟩, doc, doc', hfile, hdoc, rfl⟩
  · rintro ⟨⟨hread, hvalue, hserialize, hwrite⟩, doc, doc', hfile, hdoc, rfl⟩
    rw [rewrittenDoc_ok_iff.mpr ⟨hread, hvalue, hserialize, doc, hfile, hdoc⟩]
    dsimp only
    rw [hwrite]

/-- A rewrite that fails before the write leaves the file. -/
theorem file_of_error {disk : DiskAnswers} {path : String} {file file' : YamlFile}
    {wallets : List WalletEntryConfig} {e : String}
    (h : rewriteYamlWallets disk path file wallets = (.error e, file'))
    (hwrite : disk.writeError = none) : file' = file := by
  unfold rewriteYamlWallets at h
  split at h
  case h_1 => cases h; rfl
  case h_2 =>
    rw [hwrite] at h
    cases h

theorem mapM_fromValue (wallets : List WalletEntryConfig) :
    (wallets.map WalletEntryConfig.toValue).mapM WalletEntryConfig.fromValue = some wallets := by
  induction wallets with
  | nil => rfl
  | cons e es ih =>
    rw [List.map_cons, List.mapM_cons, ih, WalletEntryConfig.fromValue_toValue]
    rfl

/-- The written wallets are the ones loaded at the next start. -/
theorem loadWallets_insertWallets {doc doc' : Value} {wallets : List WalletEntryConfig}
    (h : insertWallets doc wallets = .ok doc') : loadWallets doc' = some wallets := by
  have hget := Value.get?_insert (insertWallets_ok_iff.mp h) "wallets"
  rw [if_pos rfl] at hget
  rw [loadWallets, Value.fieldOr, hget]
  exact mapM_fromValue wallets

/-- Only a root with fields has wallets. -/
theorem exists_insertWallets {doc : Value} {stored : List WalletEntryConfig}
    (h : loadWallets doc = some stored) (wallets : List WalletEntryConfig) :
    stored = [] ∨ ∃ doc', insertWallets doc wallets = .ok doc' := by
  cases doc with
  | map fields => exact .inr ⟨_, rfl⟩
  | _ =>
    cases h
    exact .inl rfl

/-! ## The handler -/

/-- What the handlers of the API share. -/
structure ApiState where
  configPath : String := "filter_config.yaml"
  /-- The content of the file at `configPath`. -/
  file : YamlFile
  walletRegistry : WalletRegistry

inductive Response
  | badRequest (error : String)
  | internalServerError (error : String)
  | ok (wallets : List WalletHandle)

namespace WalletHandle

/-- The entry that the handler writes for a wallet. -/
def entry (w : WalletHandle) : WalletEntryConfig where
  id := w.id
  label := w.label
  enabled := w.enabled
  privateKeyEnv := w.privateKeyEnv
  sizeSol := w.sizeSol
  tierSize := w.tierSize
  demoBalanceSol := none
  rpcUrlEnv := none

/-- The settings that an item of the request carries. `null` takes the flat size away; what is
neither `null` nor a number is passed over. -/
def put (w : WalletHandle) (v : Value) : WalletHandle :=
  { w with
    enabled := (v.field "enabled" Value.asBool).getD w.enabled
    sizeSol := (v.field "size_sol" (Value.nullable Value.asNum)).getD w.sizeSol }

@[simp] theorem put_id (w : WalletHandle) (v : Value) : (w.put v).id = w.id := rfl

end WalletHandle

namespace WalletRegistry

/-- Change the settings of one wallet. -/
def put (r : WalletRegistry) (id : String) (v : Value) : WalletRegistry where
  ordered := r.ordered.map fun w => if w.id = id then w.put v else w
  ids_nodup := by
    have h : ∀ w : WalletHandle, (if w.id = id then w.put v else w).id = w.id := by
      intro w
      split_ifs <;> rfl
    simpa [Function.comp_def, h] using r.ids_nodup

end WalletRegistry

/-- One item of the request: unknown and nameless wallets are passed over. -/
def putItem (s : WalletRegistry × List WalletEntryConfig) (v : Value) :
    WalletRegistry × List WalletEntryConfig :=
  match v.field "id" Value.asStr with
  | none => s
  | some id =>
    match s.1.get id with
    | none => s
    | some w => (s.1.put id v, s.2 ++ [(w.put v).entry])

/-- `PUT /wallets`. The registry is changed before the file is, and stays changed if the file
cannot be rewritten. -/
def ApiState.putWallets (s : ApiState) (disk : DiskAnswers) (body : Value) :
    Response × ApiState :=
  match body.field "wallets" Value.asSeq with
  | none => (.badRequest "body must include \"wallets\": [...]", s)
  | some arr =>
    let (registry, patches) := arr.foldl putItem (s.walletRegistry, [])
    match rewriteYamlWallets disk s.configPath s.file patches with
    | (.error e, file) =>
      (.internalServerError e, { s with file := file, walletRegistry := registry })
    | (.ok (), file) => (.ok registry.ordered, { s with file := file, walletRegistry := registry })

/-- Start with a configuration file. -/
def ApiState.start (hasKey : String → Bool) (doc : Value) : Option ApiState := do
  let entries ← loadWallets doc
  let registry ← buildWalletRegistry hasKey entries
  some { file := .ok doc, walletRegistry := registry }

/-- The server after some requests. -/
def ApiState.puts (s : ApiState) (requests : List (DiskAnswers × Value)) : ApiState :=
  requests.foldl (fun s request => (s.putWallets request.1 request.2).2) s

/-! ## What a request must keep -/

/-- The items of a request. -/
def requestItems (body : Value) : List Value := (body.field "wallets" Value.asSeq).getD []

/-- The item is about this wallet. -/
def Names (v : Value) (id : String) : Prop := v.field "id" Value.asStr = some id

instance (v : Value) (id : String) : Decidable (Names v id) :=
  inferInstanceAs (Decidable (_ = _))

/-- The request mentions this wallet. -/
def Mentions (items : List Value) (id : String) : Prop := ∃ v ∈ items, Names v id

/-- The request carries this field of this wallet. -/
def CarriesField (items : List Value) (id key : String) : Prop :=
  ∃ v ∈ items, Names v id ∧ (v.get? key).isSome

/-- The written entry of a mentioned wallet has every field that the request does not carry. -/
structure WalletEntryConfig.KeepsFields (items : List Value) (e e' : WalletEntryConfig) : Prop where
  label : ¬ CarriesField items e.id "label" → e'.label = e.label
  enabled : ¬ CarriesField items e.id "enabled" → e'.enabled = e.enabled
  privateKeyEnv : ¬ CarriesField items e.id "private_key_env" → e'.privateKeyEnv = e.privateKeyEnv
  sizeSol : ¬ CarriesField items e.id "size_sol" → e'.sizeSol = e.sizeSol
  tierSize : ¬ CarriesField items e.id "tier_size" → e'.tierSize = e.tierSize
  demoBalanceSol : ¬ CarriesField items e.id "demo_balance_sol" →
    e'.demoBalanceSol = e.demoBalanceSol
  rpcUrlEnv : ¬ CarriesField items e.id "rpc_url_env" → e'.rpcUrlEnv = e.rpcUrlEnv

/-- The stored wallets that are not mentioned are written back as they are, the mentioned ones
with every field that the request does not carry. -/
structure KeepsRest (items : List Value) (stored written : List WalletEntryConfig) : Prop where
  unmentioned : ∀ e ∈ stored, ¬ Mentions items e.id →
    e ∈ written ∧ ∀ e' ∈ written, e'.id = e.id → e' = e
  mentioned : ∀ e ∈ stored, Mentions items e.id →
    (∃ e' ∈ written, e'.id = e.id) ∧ ∀ e' ∈ written, e'.id = e.id → e.KeepsFields items e'

/-- The registered wallet has the fields of the entry that the request does not carry. -/
structure WalletHandle.Agrees (items : List Value) (e : WalletEntryConfig) (w : WalletHandle) :
    Prop where
  label : ¬ CarriesField items e.id "label" → w.label = e.label
  enabled : ¬ CarriesField items e.id "enabled" → w.enabled = e.enabled
  privateKeyEnv : ¬ CarriesField items e.id "private_key_env" → w.privateKeyEnv = e.privateKeyEnv
  sizeSol : ¬ CarriesField items e.id "size_sol" → w.sizeSol = e.sizeSol
  tierSize : ¬ CarriesField items e.id "tier_size" → w.tierSize = e.tierSize

/-- A wallet that the handler can write back whole: it is mentioned, the registry agrees with its
entry, and what the handler forgets is not there to be forgotten. -/
structure WalletEntryConfig.WrittenWhole (items : List Value) (registry : WalletRegistry)
    (e : WalletEntryConfig) : Prop where
  mentioned : Mentions items e.id
  registered : ∃ w, registry.get e.id = some w ∧ w.Agrees items e
  demoBalanceSol : ¬ CarriesField items e.id "demo_balance_sol" → e.demoBalanceSol = none
  rpcUrlEnv : ¬ CarriesField items e.id "rpc_url_env" → e.rpcUrlEnv = none

/-- The wallets of the configuration that a request writes back. -/
def ApiState.WritesBack (s : ApiState) (disk : DiskAnswers) (body : Value)
    (written : List WalletEntryConfig) : Prop :=
  ∃ wallets doc, (s.putWallets disk body).1 = .ok wallets ∧
    (s.putWallets disk body).2.file = .ok doc ∧ loadWallets doc = some written

/-! ## The loop over the items -/

theorem WalletRegistry.id_of_get {r : WalletRegistry} {id : String} {w : WalletHandle}
    (h : r.get id = some w) : w.id = id := by
  simpa using List.find?_some h

theorem WalletRegistry.get_put (r : WalletRegistry) (id : String) (v : Value) (id' : String) :
    (r.put id v).get id' = (r.get id').map fun w => if w.id = id then w.put v else w := by
  have h : ∀ w : WalletHandle, (if w.id = id then w.put v else w).id = w.id := by
    intro w
    split_ifs <;> rfl
  show (r.ordered.map _).find? _ = (r.ordered.find? _).map _
  rw [List.find?_map]
  congr 2
  funext w
  simp only [Function.comp_apply, h]

/-- What the items change of a wallet: the settings that they carry. -/
structure WalletHandle.Follows (items : List Value) (w₀ w : WalletHandle) : Prop where
  id : w.id = w₀.id
  label : w.label = w₀.label
  privateKeyEnv : w.privateKeyEnv = w₀.privateKeyEnv
  tierSize : w.tierSize = w₀.tierSize
  enabled : ¬ CarriesField items w₀.id "enabled" → w.enabled = w₀.enabled
  sizeSol : ¬ CarriesField items w₀.id "size_sol" → w.sizeSol = w₀.sizeSol

theorem CarriesField.append {items : List Value} {id key : String} (h : CarriesField items id key)
    (v : Value) : CarriesField (items ++ [v]) id key := by
  obtain ⟨u, hu, hnames⟩ := h
  exact ⟨u, List.mem_append_left _ hu, hnames⟩

theorem mentions_append_iff {items : List Value} {v : Value} {id : String} :
    Mentions (items ++ [v]) id ↔ Mentions items id ∨ Names v id := by
  simp [Mentions, or_and_right, exists_or]

theorem Mentions.append {items : List Value} {id : String} (h : Mentions items id) (v : Value) :
    Mentions (items ++ [v]) id :=
  mentions_append_iff.mpr (.inl h)

theorem WalletHandle.Follows.append {items : List Value} {w₀ w : WalletHandle}
    (h : w₀.Follows items w) (v : Value) : w₀.Follows (items ++ [v]) w where
  id := h.id
  label := h.label
  privateKeyEnv := h.privateKeyEnv
  tierSize := h.tierSize
  enabled hc := h.enabled fun hc' => hc (hc'.append v)
  sizeSol hc := h.sizeSol fun hc' => hc (hc'.append v)

theorem WalletHandle.Follows.put {items : List Value} {w₀ w : WalletHandle}
    (h : w₀.Follows items w) {v : Value} (hv : Names v w₀.id) :
    w₀.Follows (items ++ [v]) (w.put v) where
  id := h.id
  label := h.label
  privateKeyEnv := h.privateKeyEnv
  tierSize := h.tierSize
  enabled hc := by
    have hnone : v.get? "enabled" = none := by
      by_contra hsome
      exact hc ⟨v, by simp, hv, Option.isSome_iff_ne_none.mpr hsome⟩
    rw [← h.enabled fun hc' => hc (hc'.append v)]
    simp [WalletHandle.put, Value.field, hnone]
  sizeSol hc := by
    have hnone : v.get? "size_sol" = none := by
      by_contra hsome
      exact hc ⟨v, by simp, hv, Option.isSome_iff_ne_none.mpr hsome⟩
    rw [← h.sizeSol fun hc' => hc (hc'.append v)]
    simp [WalletHandle.put, Value.field, hnone]

/-- The registry and the entries after some items. -/
structure PutLoop (r₀ : WalletRegistry) (items : List Value) (r : WalletRegistry)
    (patches : List WalletEntryConfig) : Prop where
  handles : ∀ id w₀, r₀.get id = some w₀ → ∃ w, r.get id = some w ∧ w₀.Follows items w
  unknown : ∀ id, r₀.get id = none → r.get id = none
  patch : ∀ e ∈ patches, Mentions items e.id ∧
    ∃ w₀ w, r₀.get e.id = some w₀ ∧ w₀.Follows items w ∧ e = w.entry
  complete : ∀ id, Mentions items id → (r₀.get id).isSome → ∃ e ∈ patches, e.id = id
  /-- Unless a wallet is written twice, its entry is its last one. -/
  latest : (patches.map (·.id)).Nodup → ∀ e ∈ patches, ∃ w, r.get e.id = some w ∧ e = w.entry

/-- An item that is passed over. -/
theorem PutLoop.skip {r₀ r : WalletRegistry} {items : List Value}
    {patches : List WalletEntryConfig} (h : PutLoop r₀ items r patches) {v : Value}
    (hv : ∀ id, Names v id → r₀.get id = none) : PutLoop r₀ (items ++ [v]) r patches where
  handles id w₀ hw₀ := by
    obtain ⟨w, hw, hfollows⟩ := h.handles id w₀ hw₀
    exact ⟨w, hw, hfollows.append v⟩
  unknown := h.unknown
  patch e he := by
    obtain ⟨hmentions, w₀, w, hw₀, hfollows, hentry⟩ := h.patch e he
    exact ⟨hmentions.append v, w₀, w, hw₀, hfollows.append v, hentry⟩
  complete id hid hsome := by
    rcases mentions_append_iff.mp hid with hid | hnames
    · exact h.complete id hid hsome
    · rw [hv id hnames] at hsome
      cases hsome
  latest := h.latest

/-- A wallet was registered before, and the items have changed it. -/
theorem PutLoop.exists_follows {r₀ r : WalletRegistry} {items : List Value}
    {patches : List WalletEntryConfig} (h : PutLoop r₀ items r patches) {id : String}
    {w : WalletHandle} (hw : r.get id = some w) :
    ∃ w₀, r₀.get id = some w₀ ∧ w₀.Follows items w := by
  cases hr₀ : r₀.get id with
  | none =>
    rw [h.unknown id hr₀] at hw
    cases hw
  | some w₀ =>
    obtain ⟨w', hw', hfollows⟩ := h.handles id w₀ hr₀
    rw [hw, Option.some.injEq] at hw'
    exact ⟨w₀, rfl, hw' ▸ hfollows⟩

/-- An item of a registered wallet. -/
theorem PutLoop.take {r₀ r : WalletRegistry} {items : List Value}
    {patches : List WalletEntryConfig} (h : PutLoop r₀ items r patches) {v : Value} {id : String}
    (hv : Names v id) {w : WalletHandle} (hw : r.get id = some w) :
    PutLoop r₀ (items ++ [v]) (r.put id v) (patches ++ [(w.put v).entry]) where
  handles id' w₀' hw₀' := by
    obtain ⟨w', hw', hfollows'⟩ := h.handles id' w₀' hw₀'
    rw [WalletRegistry.get_put, hw', Option.map_some]
    by_cases hid' : w'.id = id
    · refine ⟨w'.put v, by rw [if_pos hid'], hfollows'.put ?_⟩
      rwa [← hfollows'.id, hid']
    · exact ⟨w', by rw [if_neg hid'], hfollows'.append v⟩
  unknown id' hid' := by
    rw [WalletRegistry.get_put, h.unknown id' hid']
    rfl
  patch e he := by
    rcases List.mem_append.mp he with he | he
    · obtain ⟨hmentions, w₀, w, hw₀, hfollows, hentry⟩ := h.patch e he
      exact ⟨hmentions.append v, w₀, w, hw₀, hfollows.append v, hentry⟩
    · rw [List.mem_singleton] at he
      obtain ⟨w₀, hw₀, hfollows⟩ := h.exists_follows hw
      have hid : w.id = id := WalletRegistry.id_of_get hw
      have heid : e.id = id := by
        rw [he]
        exact hid
      have hid₀ : w₀.id = id := WalletRegistry.id_of_get hw₀
      refine ⟨heid ▸ mentions_append_iff.mpr (.inr hv), w₀, w.put v, heid ▸ hw₀,
        hfollows.put ?_, he⟩
      rwa [hid₀]
  complete id' hid' hsome := by
    rcases mentions_append_iff.mp hid' with hid' | hnames
    · obtain ⟨e, he, heid⟩ := h.complete id' hid' hsome
      exact ⟨e, List.mem_append_left _ he, heid⟩
    · have hsame : id = id' := Option.some.inj (hv.symm.trans hnames)
      have hid : w.id = id' := (WalletRegistry.id_of_get hw).trans hsame
      exact ⟨(w.put v).entry, by simp, hid⟩
  latest hnodup e he := by
    have hid : w.id = id := WalletRegistry.id_of_get hw
    rw [List.map_append, List.nodup_append] at hnodup
    rcases List.mem_append.mp he with he | he
    · obtain ⟨w', hw', hentry⟩ := h.latest hnodup.1 e he
      have hne : w'.id ≠ id := by
        rw [WalletRegistry.id_of_get hw', ← hid]
        exact hnodup.2.2 e.id (List.mem_map_of_mem he) _ (by simp [WalletHandle.entry])
      refine ⟨w', ?_, hentry⟩
      rw [WalletRegistry.get_put, hw', Option.map_some, if_neg hne]
    · rw [List.mem_singleton] at he
      subst he
      refine ⟨w.put v, ?_, rfl⟩
      show (r.put id v).get w.id = _
      rw [hid, WalletRegistry.get_put, hw, Option.map_some, if_pos hid]

theorem putLoop (r₀ : WalletRegistry) (items : List Value) :
    PutLoop r₀ items (items.foldl putItem (r₀, [])).1 (items.foldl putItem (r₀, [])).2 := by
  induction items using List.reverseRecOn with
  | nil =>
    exact {
      handles := fun id w₀ hw₀ => ⟨w₀, hw₀, rfl, rfl, rfl, rfl, fun _ => rfl, fun _ => rfl⟩
      unknown := fun _ h => h
      patch := fun e he => absurd he List.not_mem_nil
      complete := fun id hid _ => by
        obtain ⟨v, hv, -⟩ := hid
        cases hv
      latest := fun _ e he => absurd he List.not_mem_nil }
  | append_singleton items v ih =>
    rw [List.foldl_append, List.foldl_cons, List.foldl_nil, putItem]
    split
    case h_1 hname =>
      refine ih.skip fun id hid => ?_
      rw [Names, hname] at hid
      cases hid
    case h_2 id hname =>
      split
      case h_1 hget =>
        refine ih.skip fun id' hid' => ?_
        have hsame : id = id' := Option.some.inj (hname.symm.trans hid')
        cases hr₀ : r₀.get id' with
        | none => rfl
        | some w₀ =>
          obtain ⟨w, hw, -⟩ := ih.handles id' w₀ hr₀
          rw [← hsame, hget] at hw
          cases hw
      case h_2 w hget => exact ih.take hname hget

/-! ## When the rest is kept -/

/-- What the loop writes keeps the rest exactly when every stored wallet can be written whole. -/
theorem keepsRest_patches {items : List Value} {r₀ r : WalletRegistry}
    {stored patches : List WalletEntryConfig} (h : PutLoop r₀ items r patches) :
    KeepsRest items stored patches ↔ ∀ e ∈ stored, e.WrittenWhole items r₀ := by
  constructor
  · intro hkeeps e he
    have hmentions : Mentions items e.id := by
      by_contra hno
      exact hno (h.patch e (hkeeps.unmentioned e he hno).1).1
    obtain ⟨⟨e', he', hid⟩, hall⟩ := hkeeps.mentioned e he hmentions
    have hfields := hall e' he' hid
    obtain ⟨-, w₀, w, hw₀, hfollows, rfl⟩ := h.patch e' he'
    rw [hid] at hw₀
    have hid₀ : w₀.id = e.id := WalletRegistry.id_of_get hw₀
    refine ⟨hmentions, ⟨w₀, hw₀, ?_, ?_, ?_, ?_, ?_⟩, ?_, ?_⟩
    · intro hc
      exact hfollows.label.symm.trans (hfields.label hc)
    · intro hc
      exact (hfollows.enabled (hid₀ ▸ hc)).symm.trans (hfields.enabled hc)
    · intro hc
      exact hfollows.privateKeyEnv.symm.trans (hfields.privateKeyEnv hc)
    · intro hc
      exact (hfollows.sizeSol (hid₀ ▸ hc)).symm.trans (hfields.sizeSol hc)
    · intro hc
      exact hfollows.tierSize.symm.trans (hfields.tierSize hc)
    · intro hc
      exact (hfields.demoBalanceSol hc).symm
    · intro hc
      exact (hfields.rpcUrlEnv hc).symm
  · intro hwhole
    constructor
    · intro e he hno
      exact absurd (hwhole e he).mentioned hno
    · intro e he hmentions
      obtain ⟨-, ⟨w₀, hw₀, hagrees⟩, hdemo, hrpc⟩ := hwhole e he
      refine ⟨h.complete e.id hmentions (by rw [hw₀]; rfl), ?_⟩
      intro e' he' hid
      obtain ⟨-, w₀', w, hw₀', hfollows, rfl⟩ := h.patch e' he'
      rw [hid, hw₀, Option.some.injEq] at hw₀'
      subst hw₀'
      have hid₀ : w₀.id = e.id := WalletRegistry.id_of_get hw₀
      refine ⟨?_, ?_, ?_, ?_, ?_, ?_, ?_⟩
      · intro hc
        exact hfollows.label.trans (hagrees.label hc)
      · intro hc
        exact (hfollows.enabled (hid₀ ▸ hc)).trans (hagrees.enabled hc)
      · intro hc
        exact hfollows.privateKeyEnv.trans (hagrees.privateKeyEnv hc)
      · intro hc
        exact (hfollows.sizeSol (hid₀ ▸ hc)).trans (hagrees.sizeSol hc)
      · intro hc
        exact hfollows.tierSize.trans (hagrees.tierSize hc)
      · intro hc
        exact (hdemo hc).symm
      · intro hc
        exact (hrpc hc).symm

/-- A request with items, step by step. -/
theorem ApiState.putWallets_items (s : ApiState) (disk : DiskAnswers) {body : Value}
    {items : List Value} (h : body.field "wallets" Value.asSeq = some items) :
    s.putWallets disk body =
      match rewriteYamlWallets disk s.configPath s.file
          (items.foldl putItem (s.walletRegistry, [])).2 with
      | (.error e, file) =>
        (.internalServerError e,
          ⟨s.configPath, file, (items.foldl putItem (s.walletRegistry, [])).1⟩)
      | (.ok (), file) =>
        (.ok (items.foldl putItem (s.walletRegistry, [])).1.ordered,
          ⟨s.configPath, file, (items.foldl putItem (s.walletRegistry, [])).1⟩) := by
  unfold putWallets
  rw [h]

theorem ApiState.putWallets_badRequest (s : ApiState) (disk : DiskAnswers) {body : Value}
    (h : body.field "wallets" Value.asSeq = none) :
    s.putWallets disk body = (.badRequest "body must include \"wallets\": [...]", s) := by
  unfold putWallets
  rw [h]

/-- What a request writes back are the entries of its loop. -/
theorem ApiState.writesBack_iff {s : ApiState} {disk : DiskAnswers} {body : Value}
    {written : List WalletEntryConfig} :
    s.WritesBack disk body written ↔
      ∃ items, body.field "wallets" Value.asSeq = some items ∧ disk.Fine ∧
        written = (items.foldl putItem (s.walletRegistry, [])).2 ∧
        ∃ doc doc', s.file = .ok doc ∧ insertWallets doc written = .ok doc' := by
  unfold WritesBack
  cases hbody : body.field "wallets" Value.asSeq with
  | none =>
    rw [s.putWallets_badRequest disk hbody]
    exact iff_of_false nofun nofun
  | some items =>
    rw [s.putWallets_items disk hbody]
    constructor
    · intro ⟨wallets, doc, hok, hfile, hload⟩
      cases hrewrite : rewriteYamlWallets disk s.configPath s.file
          (items.foldl putItem (s.walletRegistry, [])).2 with
      | mk result file =>
        simp only [hrewrite] at hok hfile
        cases result with
        | error e => cases hok
        | ok u =>
          obtain ⟨hfine, doc₀, doc', hdoc₀, hinsert, rfl⟩ :=
            (rewriteYamlWallets_ok_iff _).mp hrewrite
          cases hfile
          have hwritten := hload.symm.trans (loadWallets_insertWallets hinsert)
          cases hwritten
          exact ⟨items, rfl, hfine, rfl, doc₀, doc, hdoc₀, hinsert⟩
    · rintro ⟨_, hitems, hfine, rfl, doc, doc', hdoc, hinsert⟩
      cases hitems
      have hrewrite := (rewriteYamlWallets_ok_iff s.configPath).mpr
        ⟨hfine, doc, doc', hdoc, hinsert, rfl⟩
      rw [hrewrite]
      exact ⟨_, doc', rfl, rfl, loadWallets_insertWallets hinsert⟩

/-- **Saving keeps the rest** exactly when nothing is written back, or every stored wallet is
mentioned, agrees with the registry and has nothing that the handler forgets. -/
theorem keepsRest_iff (s : ApiState) (disk : DiskAnswers) (body : Value) {doc : Value}
    {stored : List WalletEntryConfig} (hfile : s.file = .ok doc)
    (hstored : loadWallets doc = some stored) :
    (∀ written, s.WritesBack disk body written →
      KeepsRest (requestItems body) stored written) ↔
    body.field "wallets" Value.asSeq = none ∨ ¬ disk.Fine ∨
      ∀ e ∈ stored, e.WrittenWhole (requestItems body) s.walletRegistry := by
  simp only [ApiState.writesBack_iff, requestItems]
  cases hbody : body.field "wallets" Value.asSeq with
  | none =>
    refine iff_of_true ?_ (.inl rfl)
    intro written hwritten
    obtain ⟨items, hitems, -⟩ := hwritten
    cases hitems
  | some items =>
    have hloop := putLoop s.walletRegistry items
    rw [Option.getD_some]
    constructor
    · intro h
      by_cases hfine : disk.Fine
      · refine .inr (.inr ?_)
        rcases exists_insertWallets hstored (items.foldl putItem (s.walletRegistry, [])).2 with
          rfl | ⟨doc', hinsert⟩
        · exact fun e he => absurd he List.not_mem_nil
        · rw [← keepsRest_patches hloop]
          exact h _ ⟨items, rfl, hfine, rfl, doc, doc', hfile, hinsert⟩
      · exact .inr (.inl hfine)
    · rintro h written ⟨_, hitems, hfine, rfl, -⟩
      cases hitems
      rw [keepsRest_patches hloop]
      rcases h with h | h | h
      · cases h
      · exact absurd hfine h
      · exact h

/-- Unless the write itself fails, a request that is not answered with the wallets leaves the
file. -/
theorem ApiState.file_putWallets {s : ApiState} {disk : DiskAnswers} {body : Value}
    (hwrite : disk.writeError = none) (h : ∀ wallets, (s.putWallets disk body).1 ≠ .ok wallets) :
    (s.putWallets disk body).2.file = s.file := by
  cases hbody : body.field "wallets" Value.asSeq with
  | none => rw [s.putWallets_badRequest disk hbody]
  | some items =>
    rw [s.putWallets_items disk hbody] at h ⊢
    cases hrewrite : rewriteYamlWallets disk s.configPath s.file
        (items.foldl putItem (s.walletRegistry, [])).2 with
    | mk result file =>
      simp only [hrewrite] at h ⊢
      cases result with
      | error e => exact file_of_error hrewrite hwrite
      | ok u => exact absurd rfl (h _)

/-! ## The file and the registry -/

/-- The registered wallets are those of the file, where both have the wallet. A file with a
repeated id is refused at the next start, so nothing is said of it. -/
structure ApiState.InStep (s : ApiState) : Prop where
  labelled : ∀ id w, s.walletRegistry.get id = some w → w.label = "" → w.id = ""
  agree : ∀ doc stored, s.file = .ok doc → loadWallets doc = some stored →
    (stored.map (·.id)).Nodup → ∀ e ∈ stored, ∀ w, s.walletRegistry.get e.id = some w → w = e.handle

theorem WalletHandle.handle_entry {w : WalletHandle} (h : w.label = "" → w.id = "") :
    w.entry.handle = w := by
  obtain ⟨id, label, enabled, size, tier, env⟩ := w
  have hlabel : (if label = "" then id else label) = label := by
    split_ifs with hempty
    · rw [hempty]
      exact h hempty
    · rfl
  show (⟨id, if label = "" then id else label, enabled, size, tier, env⟩ : WalletHandle) = _
  rw [hlabel]

theorem WalletEntryConfig.handle_labelled (e : WalletEntryConfig) (h : e.handle.label = "") :
    e.handle.id = "" := by
  by_cases hempty : e.label = ""
  · simpa [handle, effectiveLabel, hempty] using h
  · simp [handle, effectiveLabel, hempty] at h

theorem WalletRegistry.add_handles {hasKey : String → Bool} {r r' : WalletRegistry}
    {e : WalletEntryConfig} (h : r.add hasKey e = some r') {w : WalletHandle}
    (hw : w ∈ r'.ordered) : w ∈ r.ordered ∨ w = e.handle := by
  unfold add at h
  split_ifs at h
  · cases h
    simpa using hw
  · cases h
    exact .inl hw

/-- Every handle is that of a configured wallet. -/
theorem WalletRegistry.foldlM_add_handles {hasKey : String → Bool} {r r' : WalletRegistry}
    {entries : List WalletEntryConfig} (h : entries.foldlM (add hasKey) r = some r')
    {w : WalletHandle} (hw : w ∈ r'.ordered) :
    w ∈ r.ordered ∨ ∃ e ∈ entries, w = e.handle := by
  induction entries generalizing r with
  | nil =>
    cases h
    exact .inl hw
  | cons e es ih =>
    rw [List.foldlM_cons] at h
    obtain ⟨r₁, hr₁, h⟩ := Option.bind_eq_some_iff.mp h
    rcases ih h with hold | ⟨e', he', hw'⟩
    · rcases add_handles hr₁ hold with hold | hnew
      · exact .inl hold
      · exact .inr ⟨e, List.mem_cons_self .., hnew⟩
    · exact .inr ⟨e', List.mem_cons_of_mem _ he', hw'⟩

theorem handle_of_build {hasKey : String → Bool} {entries : List WalletEntryConfig}
    {r : WalletRegistry} (h : buildWalletRegistry hasKey entries = some r) {w : WalletHandle}
    (hw : w ∈ r.ordered) :
    ∃ e ∈ if entries.isEmpty then defaultWalletEntries else entries, w = e.handle := by
  rcases WalletRegistry.foldlM_add_handles h hw with hnil | hmem
  · cases hnil
  · exact hmem

theorem inStep_start {hasKey : String → Bool} {doc : Value} {s : ApiState}
    (h : ApiState.start hasKey doc = some s) : s.InStep := by
  obtain ⟨entries, hentries, h⟩ := Option.bind_eq_some_iff.mp h
  obtain ⟨registry, hregistry, h⟩ := Option.bind_eq_some_iff.mp h
  cases h
  constructor
  · intro id w hw
    obtain ⟨e, -, rfl⟩ := handle_of_build hregistry (List.mem_of_find?_eq_some hw)
    exact e.handle_labelled
  · intro doc' stored hdoc hstored hids e he w hw
    cases hdoc
    rw [hentries, Option.some.injEq] at hstored
    subst hstored
    obtain ⟨e', he', rfl⟩ := handle_of_build hregistry (List.mem_of_find?_eq_some hw)
    have hcons : entries.isEmpty = false := by
      rw [List.isEmpty_eq_false_iff]
      exact List.ne_nil_of_mem he
    rw [hcons, if_neg Bool.false_ne_true] at he'
    rw [List.inj_on_of_nodup_map hids he' he (WalletRegistry.id_of_get hw)]

theorem PutLoop.labelled {r₀ r : WalletRegistry} {items : List Value}
    {patches : List WalletEntryConfig} (h : PutLoop r₀ items r patches)
    (hr₀ : ∀ id w, r₀.get id = some w → w.label = "" → w.id = "") (id : String) (w : WalletHandle)
    (hw : r.get id = some w) (hlabel : w.label = "") : w.id = "" := by
  obtain ⟨w₀, hw₀, hfollows⟩ := h.exists_follows hw
  rw [hfollows.id]
  exact hr₀ id w₀ hw₀ (hfollows.label ▸ hlabel)

/-- A request that can be written keeps file and registry in step. -/
theorem inStep_putWallets {s : ApiState} (h : s.InStep) {disk : DiskAnswers} (hfine : disk.Fine)
    (body : Value) : (s.putWallets disk body).2.InStep := by
  cases hbody : body.field "wallets" Value.asSeq with
  | none => rwa [s.putWallets_badRequest disk hbody]
  | some items =>
    have hloop := putLoop s.walletRegistry items
    have hlabelled := hloop.labelled h.labelled
    rw [s.putWallets_items disk hbody]
    cases hrewrite : rewriteYamlWallets disk s.configPath s.file
        (items.foldl putItem (s.walletRegistry, [])).2 with
    | mk result file =>
      cases result with
      | error e =>
        refine ⟨hlabelled, ?_⟩
        intro doc stored hdoc hstored hids e he w hw
        have hfile : s.file = .ok doc := (file_of_error hrewrite hfine.2.2.2).symm.trans hdoc
        rcases exists_insertWallets hstored (items.foldl putItem (s.walletRegistry, [])).2 with
          rfl | ⟨doc', hinsert⟩
        · cases he
        · have hok := (rewriteYamlWallets_ok_iff s.configPath).mpr
            ⟨hfine, doc, doc', hfile, hinsert, rfl⟩
          rw [hrewrite] at hok
          cases hok
      | ok u =>
        refine ⟨hlabelled, ?_⟩
        intro doc stored hdoc hstored hids e he w hw
        obtain ⟨-, doc₀, doc', -, hinsert, rfl⟩ := (rewriteYamlWallets_ok_iff _).mp hrewrite
        cases hdoc
        rw [loadWallets_insertWallets hinsert, Option.some.injEq] at hstored
        subst hstored
        obtain ⟨w', hw', hentry⟩ := hloop.latest hids e he
        cases hw.symm.trans hw'
        rw [hentry, WalletHandle.handle_entry (hlabelled _ w hw)]

/-- **In step** after any requests that could be written. -/
theorem inStep_puts {s : ApiState} (h : s.InStep) {requests : List (DiskAnswers × Value)}
    (hfine : ∀ request ∈ requests, request.1.Fine) : (s.puts requests).InStep := by
  induction requests generalizing s with
  | nil => exact h
  | cons request requests ih =>
    rw [List.forall_mem_cons] at hfine
    exact ih (inStep_putWallets h hfine.1 request.2) hfine.2

/-- In step, only a label that the file leaves empty and what the handler forgets stand in the
way of a mentioned wallet. -/
theorem ApiState.InStep.writtenWhole_iff {s : ApiState} (h : s.InStep) {doc : Value}
    {stored : List WalletEntryConfig} (hfile : s.file = .ok doc)
    (hstored : loadWallets doc = some stored) (hids : (stored.map (·.id)).Nodup)
    {e : WalletEntryConfig} (he : e ∈ stored) (items : List Value) :
    e.WrittenWhole items s.walletRegistry ↔
      Mentions items e.id ∧ (s.walletRegistry.get e.id).isSome ∧
        (¬ CarriesField items e.id "label" → e.effectiveLabel = e.label) ∧
        (¬ CarriesField items e.id "demo_balance_sol" → e.demoBalanceSol = none) ∧
        (¬ CarriesField items e.id "rpc_url_env" → e.rpcUrlEnv = none) := by
  constructor
  · intro ⟨hmentions, ⟨w, hw, hagrees⟩, hdemo, hrpc⟩
    have hhandle : w = e.handle := h.agree doc stored hfile hstored hids e he w hw
    subst hhandle
    exact ⟨hmentions, by rw [hw]; rfl, hagrees.label, hdemo, hrpc⟩
  · intro ⟨hmentions, hsome, hlabel, hdemo, hrpc⟩
    obtain ⟨w, hw⟩ := Option.isSome_iff_exists.mp hsome
    have hhandle : w = e.handle := h.agree doc stored hfile hstored hids e he w hw
    subst hhandle
    exact ⟨hmentions, ⟨_, hw, hlabel, fun _ => rfl, fun _ => rfl, fun _ => rfl, fun _ => rfl⟩,
      hdemo, hrpc⟩

/-! ## A request for one wallet of two -/

/-- A wallet with a node of its own. -/
def mainEntry : WalletEntryConfig where
  id := "w1"
  label := "Main"
  privateKeyEnv := "KEY_1"
  rpcUrlEnv := some "RPC_1"

def copyEntry : WalletEntryConfig where
  id := "w2"
  label := "Copy"
  privateKeyEnv := "KEY_2"

def walletsFile (entries : List WalletEntryConfig) : Value :=
  .map [("wallets", .seq (entries.map WalletEntryConfig.toValue))]

/-- Switch one wallet off. -/
def switchOff (id : String) : Value := .map [("id", .str id), ("enabled", .bool false)]

def putBody (items : List Value) : Value := .map [("wallets", .seq items)]

/-- **A lost wallet.** A request that switches the first wallet off takes the second one out of the
file, and the first one's node with it. -/
theorem wallet_lost :
    ∃ s, ApiState.start (fun _ => true) (walletsFile [mainEntry, copyEntry]) = some s ∧
      s.WritesBack {} (putBody [switchOff "w1"])
        [{ mainEntry with enabled := false, rpcUrlEnv := none }] ∧
      ¬ KeepsRest (requestItems (putBody [switchOff "w1"])) [mainEntry, copyEntry]
        [{ mainEntry with enabled := false, rpcUrlEnv := none }] := by
  refine ⟨_, rfl, ⟨_, _, rfl, rfl, rfl⟩, ?_⟩
  intro hkeeps
  have hno : ¬ Mentions (requestItems (putBody [switchOff "w1"])) copyEntry.id := by
    intro hmentions
    obtain ⟨v, hv, hnames⟩ := hmentions
    obtain rfl : v = switchOff "w1" := List.mem_singleton.mp hv
    exact absurd hnames (by decide)
  have hkept := (hkeeps.unmentioned copyEntry (by simp) hno).1
  simp [copyEntry, mainEntry] at hkept

/-- The server of a file with one wallet. -/
def copyState : ApiState where
  file := .ok (walletsFile [copyEntry])
  walletRegistry := ⟨[copyEntry.handle], List.nodup_singleton _⟩

/-- A write that fails leaves the file behind the registry. -/
example : (copyState.putWallets { writeError := some ("no space", copyState.file) }
      (putBody [switchOff "w2"])).2.file = copyState.file ∧
    ((copyState.putWallets { writeError := some ("no space", copyState.file) }
      (putBody [switchOff "w2"])).2.walletRegistry.get "w2").map (·.enabled) = some false :=
  ⟨rfl, rfl⟩

/-- Nothing to forget, and the only wallet named. -/
theorem keepsRest_iff_allNamed :
    loadWallets (walletsFile [copyEntry]) = some [copyEntry] ∧
      copyState.WritesBack {} (putBody [switchOff "w2"]) [{ copyEntry with enabled := false }] ∧
      ((∀ written, copyState.WritesBack {} (putBody [switchOff "w2"]) written →
          KeepsRest (requestItems (putBody [switchOff "w2"])) [copyEntry] written) ↔
        (putBody [switchOff "w2"]).field "wallets" Value.asSeq = none ∨
          ¬ DiskAnswers.Fine {} ∨ ∀ e ∈ [copyEntry],
            e.WrittenWhole (requestItems (putBody [switchOff "w2"])) copyState.walletRegistry) :=
  ⟨rfl, ⟨_, _, rfl, rfl, rfl⟩, keepsRest_iff copyState {} _ rfl rfl⟩

end Loggaper
