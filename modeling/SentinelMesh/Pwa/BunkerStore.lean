/-
# The stored connection to a remote signer

`services/bunkerStore.ts`: the connection to a remote signer, encrypted under a key of its own that does
not leave the device.  `saveBunkerConnection` makes the key if there is none yet; nothing locks the store,
so two calls that find none make two keys, and one of them replaces the other.

`saveBunkerConnection`, `loadBunkerConnection` and `clearBunkerConnection` run in any number of tabs, and
stop at each operation on IndexedDB or WebCrypto, any of which may fail.  What can be read at a moment
(`readable`) depends on the record that was put last and on the key that was: `readable_iff` says which
connection it is by what has happened.  A connection that was stored stays readable until the record is
written again, unless another call puts a key that it has made.
-/

import SentinelMesh.Lib.Base64
import SentinelMesh.Lib.Linearizable
import SentinelMesh.Lib.Since
import SentinelMesh.Pwa.Identity
import SentinelMesh.Pwa.Sessions
import SentinelMesh.Pwa.Vault

namespace SentinelMesh
namespace Pwa
namespace BunkerStore

open Lib Lib.Task Lib.Async

/-! ### The browser -/

/-- AES-GCM of `crypto.subtle`, under keys by the call that generated them: what was encrypted is
decrypted under its key, and under no other. -/
structure AesGcm where
  encrypt : WrapKey → (iv : Bytes) → Bytes → Bytes
  decrypt : WrapKey → (iv : Bytes) → Bytes → Option Bytes
  decrypt_encrypt : ∀ key iv plaintext, decrypt key iv (encrypt key iv plaintext) = some plaintext
  decrypt_other : ∀ key key' iv plaintext, key' ≠ key →
    decrypt key' iv (encrypt key iv plaintext) = none

/-- `StoredBunkerConnection`, with bytes for the secret key or with a text. -/
structure Connection (κ : Type) where
  clientSecretKey : κ
  bunkerPubkey : String
  relays : List String
  secret : Option String
  expectedPubkey : String
  deriving DecidableEq

/-- `StoredBunkerConnection`. -/
abbrev StoredBunkerConnection := Connection Bytes

/-- `JSON.stringify` and `JSON.parse`, as bytes. -/
structure ConnectionText where
  stringify : Connection String → Bytes
  parse : Bytes → Option (Connection String)
  parse_stringify : ∀ c, parse (stringify c) = some c

/-- `EncryptedRecord`. -/
structure EncryptedRecord where
  iv : Bytes
  ciphertext : Bytes
  deriving DecidableEq

/-- The store `sentinelmesh-remote-signer`. -/
structure Store where
  wrapKey : Option WrapKey := none
  connection : Option EncryptedRecord := none
  deriving DecidableEq

/-- What the functions wait for. -/
inductive Op
  | getWrapKey
  | generateKey
  | putWrapKey (key : WrapKey)
  | encrypt (key : WrapKey) (iv plaintext : Bytes)
  | putConnection (record : EncryptedRecord)
  | getConnection
  | decrypt (key : WrapKey) (record : EncryptedRecord)
  | removeConnection
  deriving DecidableEq

/-- What it answers; `decrypt` throws at what does not decrypt. -/
def Op.Ans : Op → Type
  | getWrapKey => Option WrapKey
  | generateKey => WrapKey
  | encrypt _ _ _ => Bytes
  | getConnection => Option EncryptedRecord
  | decrypt _ _ => Option Bytes
  | _ => Unit

variable (gcm : AesGcm) (text : ConnectionText)

/-- What it answers and does, in the call `n`. -/
def answer (n : ℕ) : (op : Op) → Store → op.Ans × Store
  | .getWrapKey, s => (s.wrapKey, s)
  | .generateKey, s => (n, s)
  | .putWrapKey key, s => ((), { s with wrapKey := some key })
  | .encrypt key iv plaintext, s => (gcm.encrypt key iv plaintext, s)
  | .putConnection record, s => ((), { s with connection := some record })
  | .getConnection, s => (s.connection, s)
  | .decrypt key record, s => (gcm.decrypt key record.iv record.ciphertext, s)
  | .removeConnection, s => ((), { s with connection := none })

/-! ### The functions -/

/-- An `async` function; `none` is a rejection. -/
abbrev StoreM := OptionT (Task Op fun op => Option op.Ans)

/-- `wrapKey`. -/
def wrapKey : StoreM WrapKey := do
  let existing : Option WrapKey ← Task.attempt Op.getWrapKey
  match existing with
  | some key => pure key
  | none =>
    let key : WrapKey ← Task.attempt Op.generateKey
    Task.attempt (Op.putWrapKey key)
    pure key

/-- `encode`. -/
def encode (value : StoredBunkerConnection) : Bytes :=
  text.stringify { value with clientSecretKey := Base64.encode value.clientSecretKey }

/-- `decode`; `none` is a throw. -/
def decode (bytes : Bytes) : Option StoredBunkerConnection := do
  let value ← text.parse bytes
  let clientSecretKey ← Base64.decode value.clientSecretKey
  pure { value with clientSecretKey }

/-- `saveBunkerConnection`, with the vector that `getRandomValues` makes. -/
def saveBunkerConnection (value : StoredBunkerConnection) (iv : Bytes) : StoreM Unit := do
  let key ← wrapKey
  let ciphertext : Bytes ← Task.attempt (Op.encrypt key iv (encode text value))
  Task.attempt (Op.putConnection { iv, ciphertext })

/-- The body of `loadBunkerConnection`, which throws where it fails. -/
def tryLoad : StoreM (Option StoredBunkerConnection) := do
  let key : Option WrapKey ← Task.attempt Op.getWrapKey
  let record : Option EncryptedRecord ← Task.attempt Op.getConnection
  match key, record with
  | some key, some record => do
    let plaintext : Option Bytes ← Task.attempt (Op.decrypt key record)
    OptionT.mk (pure ((plaintext.bind (decode text)).map some))
  | _, _ => pure none

/-- `loadBunkerConnection`: `null` for whatever is thrown. -/
def loadBunkerConnection : StoreM (Option StoredBunkerConnection) :=
  OptionT.mk do
    let found ← (tryLoad text).run
    pure (some found.join)

/-- `clearBunkerConnection`. -/
def clearBunkerConnection : StoreM Unit := Task.attempt Op.removeConnection

/-- A call of a tab. -/
inductive Call
  | save (value : StoredBunkerConnection) (iv : Bytes)
  | load
  | clear
  deriving DecidableEq

/-- What a call returns: a connection, or nothing; the outer `none` is a rejection. -/
abbrev Outcome := Option (Option StoredBunkerConnection)

/-- The calls of all tabs. -/
def system : System Store Call Op (fun op => Option op.Ans) Fate Outcome where
  body
    | .save value iv => OptionT.run do
      saveBunkerConnection text value iv
      pure none
    | .load => (loadBunkerConnection text).run
    | .clear => OptionT.run do
      clearBunkerConnection
      pure none
  perform n _ := attempted (answer gcm n)

/-- What can be read now. -/
def readable (s : Store) : Option StoredBunkerConnection :=
  s.wrapKey.bind fun key => s.connection.bind fun record =>
    (gcm.decrypt key record.iv record.ciphertext).bind (decode text)

variable {gcm text}

/-- **The text of a connection** is read back as it was. -/
theorem decode_encode (value : StoredBunkerConnection) : decode text (encode text value) = some value := by
  unfold decode encode
  rw [text.parse_stringify]
  simp [Base64.decode_encode]

/-! ### What has happened -/

/-- What is left of a call. -/
abbrev Rest := Task Op (fun op => Option op.Ans) Outcome

/-- A call that was made. -/
abbrev Made := Thread Store Call Op (fun op => Option op.Ans) Outcome

/-- The store and the calls of all tabs. -/
abbrev Tabs := Pool Store Call Op (fun op => Option op.Ans) Outcome

/-- A call is made, or goes on. -/
abbrev Happening := Event Tabs (Act Call Fate)

/-- The operation that an event has carried out, and of which call. -/
def performed (e : Happening) : Option (ℕ × Op) :=
  match e.act with
  | .resume n .succeeds => (e.pre.next n).map fun i => (n, i.2)
  | _ => none

/-- The call puts its record. -/
def Puts (n : ℕ) (e : Happening) : Prop := ∃ record, performed e = some (n, .putConnection record)

/-- The record is written or removed. -/
def WritesRecord (e : Happening) : Prop :=
  ∃ n, Puts n e ∨ performed e = some (n, .removeConnection)

/-- A call puts a key. -/
def PutsKey (e : Happening) : Prop := ∃ n key, performed e = some (n, .putWrapKey key)

/-- The call comes to its key: it finds one, or puts the one it has made. -/
def Gets (n : ℕ) (e : Happening) : Prop :=
  (performed e = some (n, .getWrapKey) ∧ e.pre.store.wrapKey ≠ none) ∨
    ∃ key, performed e = some (n, .putWrapKey key)

/-- **What an action does**: nothing, it begins a call, or a call's next operation fails, or is carried
out. -/
theorem step_cases (p : Tabs) (a : Act Call Fate) :
    let e : Happening := ⟨p, a, step (system gcm text) p a⟩
    (performed e = none ∧ e.post = p) ∨
    (∃ c, performed e = none ∧ e.post =
      { p with
        threads := p.threads ++ [{ call := c, began := p.store, task := (system gcm text).body c }] }) ∨
    ∃ n t op k, p.threads[n]? = some t ∧ t.task = .call op k ∧
      ((performed e = none ∧ e.post = { p with threads := p.threads.set n { t with task := k none } }) ∨
        (performed e = some (n, op) ∧ e.post =
          { store := (answer gcm n op p.store).2
            threads := p.threads.set n { t with task := k (some (answer gcm n op p.store).1) } })) := by
  cases a with
  | start c => exact Or.inr (Or.inl ⟨c, rfl, rfl⟩)
  | resume n x =>
      have hnext : p.next n = p.threads[n]?.bind fun t => t.task.next.map (t.call, ·) := rfl
      have hpost : step (system gcm text) p (.resume n x) = p.resume (system gcm text) n x := rfl
      unfold Pool.resume at hpost
      cases ht : p.threads[n]? with
      | none =>
          rw [ht] at hnext hpost
          refine Or.inl ⟨?_, hpost⟩
          cases x with
          | fails => rfl
          | succeeds => exact congrArg (Option.map fun i : Call × Op => (n, i.2)) hnext
      | some t =>
          obtain ⟨c, b, task⟩ := t
          rw [ht] at hnext hpost
          cases task with
          | done r =>
              refine Or.inl ⟨?_, hpost⟩
              cases x with
              | fails => rfl
              | succeeds => exact congrArg (Option.map fun i : Call × Op => (n, i.2)) hnext
          | call op k =>
              refine Or.inr (Or.inr ⟨n, _, op, k, ht, rfl, ?_⟩)
              cases x with
              | fails => exact Or.inl ⟨rfl, hpost⟩
              | succeeds => exact Or.inr ⟨congrArg (Option.map fun i : Call × Op => (n, i.2)) hnext, hpost⟩

/-! ### Where a call stands -/

/-- `saveBunkerConnection`, with what is left of `wrapKey`. -/
def saving (text : ConnectionText) (value : StoredBunkerConnection) (iv : Bytes) (m : StoreM WrapKey) :
    Rest := OptionT.run do
  (do let key ← m
      let ciphertext : Bytes ← Task.attempt (Op.encrypt key iv (encode text value))
      Task.attempt (Op.putConnection { iv, ciphertext }))
  pure none

/-- What is left of it where there is no key. -/
def generating : StoreM WrapKey := do
  let key : WrapKey ← Task.attempt Op.generateKey
  Task.attempt (Op.putWrapKey key)
  pure key

/-- What is left where the key is made. -/
def putting (key : WrapKey) : StoreM WrapKey := do
  Task.attempt (Op.putWrapKey key)
  pure key

/-- What is left of the call where the record is made. -/
def storing (record : EncryptedRecord) : Rest := OptionT.run do
  Task.attempt (Op.putConnection record)
  pure none

/-- The record of a connection. -/
def sealed (gcm : AesGcm) (text : ConnectionText) (value : StoredBunkerConnection) (iv : Bytes)
    (key : WrapKey) : EncryptedRecord :=
  { iv, ciphertext := gcm.encrypt key iv (encode text value) }

variable {value : StoredBunkerConnection} {iv : Bytes}

/-- A save reads the key, and makes one where there is none. -/
theorem saving_wrapKey : saving text value iv wrapKey = .call .getWrapKey fun r =>
    r.elim (done none) fun found => saving text value iv (found.elim generating pure) := by
  refine congrArg (Task.call Op.getWrapKey) (funext fun r => ?_)
  rcases r with _ | _ | _ <;> rfl

/-- The key that it makes it puts. -/
theorem saving_generating : saving text value iv generating = .call .generateKey fun r =>
    r.elim (done none) fun key => saving text value iv (putting key) := by
  refine congrArg (Task.call Op.generateKey) (funext fun r => ?_)
  rcases r with _ | _ <;> rfl

/-- It goes on where the key is put. -/
theorem saving_putting (key : WrapKey) : saving text value iv (putting key) =
    .call (.putWrapKey key) fun r => r.elim (done none) fun _ => saving text value iv (pure key) := by
  refine congrArg (Task.call (Op.putWrapKey key)) (funext fun r => ?_)
  rcases r with _ | _ <;> rfl

/-- With a key it encrypts what it was given. -/
theorem saving_pure (key : WrapKey) : saving text value iv (pure key) =
    .call (.encrypt key iv (encode text value)) fun r =>
      r.elim (done none) fun ciphertext => storing { iv, ciphertext } := by
  refine congrArg (Task.call (Op.encrypt key iv (encode text value))) (funext fun r => ?_)
  rcases r with _ | _ <;> rfl

/-- And what it has encrypted it puts. -/
theorem storing_eq (record : EncryptedRecord) : storing record =
    .call (.putConnection record) fun r => r.elim (done none) fun _ => done (some none) := by
  refine congrArg (Task.call (Op.putConnection record)) (funext fun r => ?_)
  rcases r with _ | _ <;> rfl

/-- The key was put by the call that made it, and it is in the store exactly if no key was put since the
call `n` has come to it. -/
structure Holds (n : ℕ) (key : WrapKey) (s : Store) (es : List Happening) : Prop where
  put : ∃ e ∈ es, performed e = some (key, .putWrapKey key)
  current : s.wrapKey = some key ↔ Since (fun e => ¬ PutsKey e) (Gets n) es

/-- The call has put no key. -/
def Keyless (n : ℕ) (es : List Happening) : Prop := ∀ e ∈ es, performed e ≠ some (n, .putWrapKey n)

/-- Where a call of `saveBunkerConnection` stands, and what is known of its key. -/
def Stage (gcm : AesGcm) (text : ConnectionText) (n : ℕ) (value : StoredBunkerConnection) (iv : Bytes)
    (s : Store) (es : List Happening) (task : Rest) : Prop :=
  (Keyless n es ∧ (task = saving text value iv wrapKey ∨ task = saving text value iv generating ∨
    task = saving text value iv (putting n))) ∨
  (∃ key, Holds n key s es ∧
    (task = saving text value iv (pure key) ∨ task = storing (sealed gcm text value iv key))) ∨
  ∃ r, task = done r

/-- An operation of `loadBunkerConnection` or `clearBunkerConnection`. -/
def Op.PutsNothing : Op → Prop
  | .putWrapKey _ | .putConnection _ => False
  | _ => True

/-- What is known after every run. -/
structure Kept (gcm : AesGcm) (text : ConnectionText) (p : Tabs) (es : List Happening) : Prop where
  save : ∀ (n : ℕ) (t : Made) value iv, p.threads[n]? = some t → t.call = .save value iv →
    Stage gcm text n value iv p.store es t.task
  other : ∀ (n : ℕ) (t : Made), p.threads[n]? = some t → (∀ value iv, t.call ≠ .save value iv) →
    t.task.Each Op.PutsNothing
  begun : ∀ e ∈ es, ∀ n op, performed e = some (n, op) → n < p.threads.length
  key : ∀ key, p.store.wrapKey = some key → ∃ e ∈ es, performed e = some (key, .putWrapKey key)
  /-- The record is that of a call that has ended. -/
  record : ∀ record, p.store.connection = some record → ∃ (n : ℕ) (t : Made), ∃ value iv key,
    p.threads[n]? = some t ∧ t.call = .save value iv ∧ t.task = done (some none) ∧
      Holds n key p.store es ∧ record = sealed gcm text value iv key ∧
        Since (fun e => ¬ WritesRecord e) (Puts n) es
  absent : p.store.connection = none → ∀ n, ¬ Since (fun e => ¬ WritesRecord e) (Puts n) es

/-- What an operation does to the store. -/
inductive Effect (gcm : AesGcm) (text : ConnectionText) (p : Tabs) (es : List Happening) (n : ℕ)
    (t : Made) : Op → Store → Prop
  | quiet (op : Op) (h : op.PutsNothing) (hremove : op ≠ .removeConnection) :
      Effect gcm text p es n t op p.store
  | remove : Effect gcm text p es n t .removeConnection { p.store with connection := none }
  | putKey (h : Keyless n es) :
      Effect gcm text p es n t (.putWrapKey n) { p.store with wrapKey := some n }
  | putRecord (value : StoredBunkerConnection) (iv : Bytes) (key : WrapKey) (hcall : t.call = .save value iv)
      (htask : t.task = storing (sealed gcm text value iv key)) (h : Holds n key p.store es) :
      Effect gcm text p es n t (.putConnection (sealed gcm text value iv key))
        { p.store with connection := some (sealed gcm text value iv key) }

/-- **Nothing else happens to the store.** -/
theorem Kept.effect {p : Tabs} {es : List Happening} (h : Kept gcm text p es) {n : ℕ}
    {t : Made} {op : Op} {k : Option op.Ans → Rest} (ht : p.threads[n]? = some t)
    (htask : t.task = .call op k) : Effect gcm text p es n t op (answer gcm n op p.store).2 := by
  by_cases hsave : ∃ value iv, t.call = .save value iv
  · obtain ⟨value, iv, hcall⟩ := hsave
    rcases h.save n t value iv ht hcall with ⟨hnew, heq | heq | heq⟩ | ⟨key, hholds, heq | heq⟩ | ⟨r, heq⟩
    · rw [heq, saving_wrapKey] at htask
      cases htask
      exact .quiet _ trivial (by simp)
    · rw [heq, saving_generating] at htask
      cases htask
      exact .quiet _ trivial (by simp)
    · rw [heq, saving_putting] at htask
      cases htask
      exact .putKey hnew
    · rw [heq, saving_pure] at htask
      cases htask
      exact .quiet _ trivial (by simp)
    · have hstoring := heq
      rw [heq, storing_eq] at htask
      cases htask
      exact .putRecord value iv key hcall hstoring hholds
    · rw [heq] at htask
      cases htask
  · have hop := h.other n t ht fun value iv hcall => hsave ⟨value, iv, hcall⟩
    rw [htask] at hop
    cases op with
    | putWrapKey key => exact hop.1.elim
    | putConnection record => exact hop.1.elim
    | removeConnection => exact .remove
    | getWrapKey => exact .quiet _ trivial (by simp)
    | generateKey => exact .quiet _ trivial (by simp)
    | encrypt key iv plaintext => exact .quiet _ trivial (by simp)
    | getConnection => exact .quiet _ trivial (by simp)
    | decrypt key record => exact .quiet _ trivial (by simp)

/-! ### One event more -/

/-- What an event does to the key: nothing, or a call that had put none puts its own. -/
def Rekeys (s s' : Store) (es : List Happening) (e : Happening) : Prop :=
  (¬ PutsKey e ∧ s'.wrapKey = s.wrapKey) ∨
    ∃ n, performed e = some (n, .putWrapKey n) ∧ Keyless n es ∧ s'.wrapKey = some n

variable {n : ℕ} {key : WrapKey} {s s' : Store} {es : List Happening} {e : Happening}

theorem not_putsKey (h : performed e = none) : ¬ PutsKey e := by
  rintro ⟨n, key, hput⟩
  rw [h] at hput
  cases hput

theorem not_writesRecord (h : performed e = none) : ¬ WritesRecord e := by
  rintro ⟨n, ⟨record, hput⟩ | hremove⟩
  · rw [h] at hput
    cases hput
  · rw [h] at hremove
    cases hremove

/-- Another call's operation is none that brings this one its key. -/
theorem not_gets (h : ∀ op, performed e ≠ some (n, op)) : ¬ Gets n e := by
  rintro (⟨hget, -⟩ | ⟨key, hput⟩)
  · exact h _ hget
  · exact h _ hput

theorem Holds.concat (h : Holds n key s es) (hnot : ¬ Gets n e) (hkeys : Rekeys s s' es e) :
    Holds n key s' (es ++ [e]) := by
  obtain ⟨put, hput, hperformed⟩ := h.put
  refine ⟨⟨put, List.mem_append_left _ hput, hperformed⟩, ?_⟩
  rw [since_concat, or_iff_right hnot, ← h.current]
  rcases hkeys with ⟨hquiet, hsame⟩ | ⟨m, hm, hkeyless, hnew⟩
  · rw [hsame]
    exact (and_iff_left hquiet).symm
  · have hputs : PutsKey e := ⟨m, m, hm⟩
    refine iff_of_false (fun hkey => ?_) fun hkept => hkept.2 hputs
    -- the key that is put was put by no one before
    obtain rfl : m = key := Option.some.inj (hnew.symm.trans hkey)
    exact hkeyless put hput hperformed

theorem Keyless.concat (h : Keyless n es) (hnot : performed e ≠ some (n, .putWrapKey n)) :
    Keyless n (es ++ [e]) := by
  intro x hx
  rcases List.mem_append.1 hx with hx | hx
  · exact h x hx
  · rw [List.mem_singleton.1 hx]
    exact hnot

/-- **The call comes to its key.** -/
theorem Holds.of_gets (hgets : Gets n e) (hkey : s'.wrapKey = some key)
    (hput : ∃ x ∈ es ++ [e], performed x = some (key, .putWrapKey key)) : Holds n key s' (es ++ [e]) :=
  ⟨hput, iff_of_true hkey (since_concat.2 (Or.inl hgets))⟩

/-- What others do leaves a call where it stands. -/
theorem Stage.concat {task : Rest} (h : Stage gcm text n value iv s es task)
    (hother : ∀ op, performed e ≠ some (n, op)) (hkeys : Rekeys s s' es e) :
    Stage gcm text n value iv s' (es ++ [e]) task := by
  rcases h with ⟨hnew, htask⟩ | ⟨key, hholds, htask⟩ | hdone
  · exact Or.inl ⟨hnew.concat (hother _), htask⟩
  · exact Or.inr (Or.inl ⟨key, hholds.concat (not_gets hother) hkeys, htask⟩)
  · exact Or.inr (Or.inr hdone)

/-- A failure ends a call. -/
theorem Stage.failed {op : Op} {k : Option op.Ans → Rest}
    (h : Stage gcm text n value iv s es (.call op k)) : ∃ r, k none = done r := by
  rcases h with ⟨-, heq | heq | heq⟩ | ⟨key, -, heq | heq⟩ | ⟨r, heq⟩
  · rw [saving_wrapKey] at heq
    cases heq
    exact ⟨none, rfl⟩
  · rw [saving_generating] at heq
    cases heq
    exact ⟨none, rfl⟩
  · rw [saving_putting] at heq
    cases heq
    exact ⟨none, rfl⟩
  · rw [saving_pure] at heq
    cases heq
    exact ⟨none, rfl⟩
  · rw [storing_eq] at heq
    cases heq
    exact ⟨none, rfl⟩
  · cases heq

/-- **A call moves on** to where it stands next. -/
theorem Stage.advanced {op : Op} {k : Option op.Ans → Rest} {p : Tabs}
    (h : Stage gcm text n value iv p.store es (.call op k)) (hpre : e.pre = p)
    (hperformed : performed e = some (n, op))
    (hkey : ∀ key, p.store.wrapKey = some key → ∃ x ∈ es, performed x = some (key, .putWrapKey key))
    (hkeys : Rekeys p.store (answer gcm n op p.store).2 es e) :
    Stage gcm text n value iv (answer gcm n op p.store).2 (es ++ [e])
      (k (some (answer gcm n op p.store).1)) := by
  rcases h with ⟨hnew, heq | heq | heq⟩ | ⟨key, hholds, heq | heq⟩ | ⟨r, heq⟩
  · rw [saving_wrapKey] at heq
    cases heq
    cases hfound : p.store.wrapKey with
    | none =>
        refine Or.inl ⟨hnew.concat (by rw [hperformed]; simp), Or.inr (Or.inl ?_)⟩
        show saving text value iv (p.store.wrapKey.elim generating pure) = _
        rw [hfound]
        rfl
    | some key =>
        refine Or.inr (Or.inl ⟨key, Holds.of_gets (Or.inl ⟨hperformed, ?_⟩) hfound ?_, Or.inl ?_⟩)
        · rw [hpre, hfound]
          simp
        · obtain ⟨x, hx, hput⟩ := hkey key hfound
          exact ⟨x, List.mem_append_left _ hx, hput⟩
        · show saving text value iv (p.store.wrapKey.elim generating pure) = _
          rw [hfound]
          rfl
  · rw [saving_generating] at heq
    cases heq
    exact Or.inl ⟨hnew.concat (by rw [hperformed]; simp), Or.inr (Or.inr rfl)⟩
  · rw [saving_putting] at heq
    cases heq
    refine Or.inr (Or.inl ⟨n, Holds.of_gets (Or.inr ⟨n, hperformed⟩) rfl ⟨e, ?_, hperformed⟩, Or.inl rfl⟩)
    exact List.mem_append_right _ (List.mem_singleton_self e)
  · rw [saving_pure] at heq
    cases heq
    refine Or.inr (Or.inl ⟨key, hholds.concat ?_ hkeys, Or.inr rfl⟩)
    rintro (⟨hget, -⟩ | ⟨key', hput⟩)
    · rw [hperformed] at hget
      simp at hget
    · rw [hperformed] at hput
      simp at hput
  · rw [storing_eq] at heq
    cases heq
    exact Or.inr (Or.inr ⟨_, rfl⟩)
  · cases heq

/-- No other operation puts a key. -/
theorem not_putsKey_of_ne {op : Op} (hperformed : performed e = some (n, op))
    (hop : ∀ key, op ≠ .putWrapKey key) : ¬ PutsKey e := by
  rintro ⟨m, key, hput⟩
  rw [hperformed] at hput
  exact hop key (Prod.mk.inj (Option.some.inj hput)).2

/-- What an effect does to the key. -/
theorem Effect.rekeys {p : Tabs} {t : Made} {op : Op} (h : Effect gcm text p es n t op s')
    (hperformed : performed e = some (n, op)) : Rekeys p.store s' es e := by
  cases h with
  | quiet op hop hremove =>
      refine Or.inl ⟨not_putsKey_of_ne hperformed ?_, rfl⟩
      rintro key rfl
      exact hop
  | remove => exact Or.inl ⟨not_putsKey_of_ne hperformed (by simp), rfl⟩
  | putKey hnew => exact Or.inr ⟨n, hperformed, hnew, rfl⟩
  | putRecord value iv key hcall htask hholds =>
      exact Or.inl ⟨not_putsKey_of_ne hperformed (by simp), rfl⟩

/-- **The record after an effect**: as it was, gone, or the call's. -/
theorem Effect.record {p : Tabs} {t : Made} {op : Op} (h : Effect gcm text p es n t op s')
    (hperformed : performed e = some (n, op)) :
    (¬ WritesRecord e ∧ s'.connection = p.store.connection) ∨
    (WritesRecord e ∧ (∀ m, ¬ Puts m e) ∧ s'.connection = none) ∨
    ∃ value iv key, Puts n e ∧ t.call = .save value iv ∧
      t.task = storing (sealed gcm text value iv key) ∧ Holds n key p.store es ∧
        s'.connection = some (sealed gcm text value iv key) := by
  have hputs : ∀ m, Puts m e → ∃ record, op = .putConnection record := by
    rintro m ⟨record, hput⟩
    rw [hperformed] at hput
    obtain ⟨-, rfl⟩ := Prod.mk.inj (Option.some.inj hput)
    exact ⟨record, rfl⟩
  cases h with
  | quiet op hop hremove =>
      refine Or.inl ⟨?_, rfl⟩
      rintro ⟨m, hput | hgone⟩
      · obtain ⟨record, rfl⟩ := hputs m hput
        exact hop
      · rw [hperformed] at hgone
        exact hremove (Prod.mk.inj (Option.some.inj hgone)).2
  | remove =>
      refine Or.inr (Or.inl ⟨⟨n, Or.inr hperformed⟩, fun m hput => ?_, rfl⟩)
      obtain ⟨record, hop⟩ := hputs m hput
      cases hop
  | putKey hnew =>
      refine Or.inl ⟨?_, rfl⟩
      rintro ⟨m, hput | hgone⟩
      · obtain ⟨record, hop⟩ := hputs m hput
        cases hop
      · rw [hperformed] at hgone
        cases Option.some.inj hgone
  | putRecord value iv key hcall htask hholds =>
      exact Or.inr (Or.inr ⟨value, iv, key, ⟨_, hperformed⟩, hcall, htask, hholds, rfl⟩)

/-- What is not a call to save puts nothing. -/
theorem each_other {c : Call} (hc : ∀ value iv, c ≠ .save value iv) :
    ((system gcm text).body c).Each Op.PutsNothing := by
  cases c with
  | save value iv => exact absurd rfl (hc value iv)
  | clear => exact ⟨trivial, fun r => by cases r <;> trivial⟩
  | load =>
      refine ⟨trivial, fun r => ?_⟩
      cases r with
      | none => trivial
      | some found =>
          refine ⟨trivial, fun r => ?_⟩
          cases r with
          | none => trivial
          | some record =>
              cases found with
              | none => cases record <;> trivial
              | some key =>
                  cases record with
                  | none => trivial
                  | some record => exact ⟨trivial, fun r => by cases r <;> trivial⟩

/-- **What is known after one event more**, where it is known what becomes of the calls, of the key and of
the record. -/
theorem Kept.concat {p p' : Tabs} (h : Kept gcm text p es)
    (hsave : ∀ (n : ℕ) (t : Made) value iv, p'.threads[n]? = some t → t.call = .save value iv →
      Stage gcm text n value iv p'.store (es ++ [e]) t.task)
    (hother : ∀ (n : ℕ) (t : Made), p'.threads[n]? = some t → (∀ value iv, t.call ≠ .save value iv) →
      t.task.Each Op.PutsNothing)
    (hended : ∀ (n : ℕ) (t : Made) r, p.threads[n]? = some t → t.task = done r →
      p'.threads[n]? = some t ∧ ∀ op, performed e ≠ some (n, op))
    (hlength : p.threads.length ≤ p'.threads.length)
    (hbegun : ∀ n op, performed e = some (n, op) → n < p.threads.length)
    (hkeys : Rekeys p.store p'.store es e)
    (hrecord : (¬ WritesRecord e ∧ p'.store.connection = p.store.connection) ∨
      (WritesRecord e ∧ (∀ m, ¬ Puts m e) ∧ p'.store.connection = none) ∨
      ∃ (n : ℕ) (t : Made), ∃ value iv key, Puts n e ∧ p'.threads[n]? = some t ∧
        t.call = .save value iv ∧ t.task = done (some none) ∧ Holds n key p'.store (es ++ [e]) ∧
          p'.store.connection = some (sealed gcm text value iv key)) :
    Kept gcm text p' (es ++ [e]) := by
  refine ⟨hsave, hother, fun x hx n op hperformed => ?_, fun key hkey => ?_, fun record hput => ?_,
    fun hnone n hsince => ?_⟩
  · rcases List.mem_append.1 hx with hx | hx
    · exact (h.begun x hx n op hperformed).trans_le hlength
    · rw [List.mem_singleton.1 hx] at hperformed
      exact (hbegun n op hperformed).trans_le hlength
  · rcases hkeys with ⟨-, hsame⟩ | ⟨m, hm, -, hnew⟩
    · obtain ⟨x, hx, hperformed⟩ := h.key key (hsame ▸ hkey)
      exact ⟨x, List.mem_append_left _ hx, hperformed⟩
    · obtain rfl : m = key := Option.some.inj (hnew.symm.trans hkey)
      exact ⟨e, List.mem_append_right _ (List.mem_singleton_self e), hm⟩
  · rcases hrecord with ⟨hquiet, hsame⟩ | ⟨-, -, hgone⟩ |
      ⟨n, t, value, iv, key, hputs, ht, hcall, hdone, hholds, hnew⟩
    · obtain ⟨n, t, value, iv, key, ht, hcall, hdone, hholds, heq, hsince⟩ := h.record record (hsame ▸ hput)
      obtain ⟨ht', hnot⟩ := hended n t _ ht hdone
      exact ⟨n, t, value, iv, key, ht', hcall, hdone, hholds.concat (not_gets hnot) hkeys, heq,
        since_concat.2 (Or.inr ⟨hsince, hquiet⟩)⟩
    · rw [hgone] at hput
      cases hput
    · rw [hnew] at hput
      exact ⟨n, t, value, iv, key, ht, hcall, hdone, hholds, (Option.some.inj hput).symm,
        since_concat.2 (Or.inl hputs)⟩
  · rw [since_concat] at hsince
    rcases hrecord with ⟨hquiet, hsame⟩ | ⟨hwrites, hnot, -⟩ | ⟨m, t, value, iv, key, -, -, -, -, -, hnew⟩
    · rcases hsince with hputs | ⟨hsince, -⟩
      · exact hquiet ⟨n, Or.inl hputs⟩
      · exact h.absent (hsame ▸ hnone) n hsince
    · rcases hsince with hputs | ⟨-, hquiet⟩
      · exact hnot n hputs
      · exact hquiet hwrites
    · rw [hnew] at hnone
      cases hnone

/-- **An event that carries nothing out**: a call begins, fails or rests. -/
theorem Kept.quiet {p p' : Tabs} (h : Kept gcm text p es) (hnone : performed e = none)
    (hstore : p'.store = p.store)
    (hthreads : ∀ (n : ℕ) (t : Made), p'.threads[n]? = some t → p.threads[n]? = some t ∨
      (p.threads.length ≤ n ∧ t.task = (system gcm text).body t.call) ∨
      ∃ (t₀ : Made) (op : Op) (k : Option op.Ans → Rest), p.threads[n]? = some t₀ ∧ t₀.call = t.call ∧
        t₀.task = .call op k ∧ t.task = k none)
    (hended : ∀ (n : ℕ) (t : Made) r, p.threads[n]? = some t → t.task = done r → p'.threads[n]? = some t)
    (hlength : p.threads.length ≤ p'.threads.length) : Kept gcm text p' (es ++ [e]) := by
  have hother : ∀ n op, performed e ≠ some (n, op) := by
    intro n op hperformed
    rw [hnone] at hperformed
    cases hperformed
  have hkeys : Rekeys p.store p'.store es e :=
    Or.inl ⟨not_putsKey hnone, congrArg Store.wrapKey hstore⟩
  refine h.concat (fun n t value iv ht hcall => ?_) (fun n t ht hcall => ?_)
    (fun n t r ht hdone => ⟨hended n t r ht hdone, hother n⟩) hlength
    (fun n op hperformed => absurd hperformed (hother n op)) hkeys
    (Or.inl ⟨not_writesRecord hnone, congrArg Store.connection hstore⟩)
  · rcases hthreads n t ht with hold | ⟨hnew, hbody⟩ | ⟨t₀, op, k, ht₀, hcall₀, htask₀, hfailed⟩
    · exact (h.save n t value iv hold hcall).concat (hother n) hkeys
    · rw [hbody, hcall]
      refine Or.inl ⟨fun x hx hput => ?_, Or.inl rfl⟩
      rcases List.mem_append.1 hx with hx | hx
      · exact absurd (h.begun x hx n _ hput) (not_lt.2 hnew)
      · rw [List.mem_singleton.1 hx] at hput
        exact hother n _ hput
    · have hstage := h.save n t₀ value iv ht₀ (hcall₀.trans hcall)
      rw [htask₀] at hstage
      obtain ⟨r, hr⟩ := hstage.failed
      exact Or.inr (Or.inr ⟨r, hfailed.trans hr⟩)
  · rcases hthreads n t ht with hold | ⟨-, hbody⟩ | ⟨t₀, op, k, ht₀, hcall₀, htask₀, hfailed⟩
    · exact h.other n t hold hcall
    · rw [hbody]
      exact each_other hcall
    · have heach := h.other n t₀ ht₀ (hcall₀ ▸ hcall)
      rw [htask₀] at heach
      rw [hfailed]
      exact heach.2 none

/-- A call that has ended is none that goes on. -/
theorem ne_of_done {p : Tabs} {m : ℕ} {t t' : Made} {op : Op} {k : Option op.Ans → Rest} {r : Outcome}
    (ht : p.threads[n]? = some t) (htask : t.task = .call op k) (ht' : p.threads[m]? = some t')
    (hdone : t'.task = done r) : m ≠ n := by
  rintro rfl
  obtain rfl := Option.some.inj (ht.symm.trans ht')
  rw [hdone] at htask
  cases htask

/-- **An event that carries an operation out.** -/
theorem Kept.performs {p : Tabs} (h : Kept gcm text p es) {t : Made} {op : Op}
    {k : Option op.Ans → Rest} (ht : p.threads[n]? = some t) (htask : t.task = .call op k)
    (hpre : e.pre = p) (hperformed : performed e = some (n, op)) :
    Kept gcm text
      { store := (answer gcm n op p.store).2
        threads := p.threads.set n { t with task := k (some (answer gcm n op p.store).1) } }
      (es ++ [e]) := by
  have hlt : n < p.threads.length := (List.getElem?_eq_some_iff.1 ht).1
  have heffect := h.effect ht htask
  have hkeys := heffect.rekeys hperformed
  have hnot : ∀ m, m ≠ n → ∀ op', performed e ≠ some (m, op') := by
    intro m hm op' hother
    rw [hperformed] at hother
    exact hm (Prod.mk.inj (Option.some.inj hother)).1.symm
  refine h.concat (fun m t' value iv ht' hcall => ?_) (fun m t' ht' hcall => ?_)
    (fun m t' r ht' hdone => ?_) (List.length_set ..).ge (fun m op' hother => ?_) hkeys ?_
  · rcases Signer.getElem?_of_set ht' with ⟨rfl, rfl⟩ | ⟨hm, hold⟩
    · have hstage := h.save _ t value iv ht hcall
      rw [htask] at hstage
      exact hstage.advanced hpre hperformed h.key hkeys
    · exact (h.save m t' value iv hold hcall).concat (hnot m hm) hkeys
  · rcases Signer.getElem?_of_set ht' with ⟨rfl, rfl⟩ | ⟨-, hold⟩
    · have heach := h.other _ t ht hcall
      rw [htask] at heach
      exact heach.2 _
    · exact h.other m t' hold hcall
  · have hm := ne_of_done ht htask ht' hdone
    exact ⟨(List.getElem?_set_ne hm.symm).trans ht', hnot m hm⟩
  · by_contra hge
    exact hnot m (fun hm => hge (hm ▸ hlt)) op' hother
  · rcases heffect.record hperformed with hsame | hgone |
      ⟨value, iv, key, hputs, hcall, hstoring, hholds, hnew⟩
    · exact Or.inl hsame
    · exact Or.inr (Or.inl hgone)
    · have hop := htask.symm.trans (hstoring.trans (storing_eq _))
      cases hop
      refine Or.inr (Or.inr ⟨n, _, value, iv, key, hputs, List.getElem?_set_self hlt, hcall, rfl,
        hholds.concat ?_ hkeys, hnew⟩)
      rintro (⟨hget, -⟩ | ⟨key', hput⟩)
      · rw [hperformed] at hget
        cases Option.some.inj hget
      · rw [hperformed] at hput
        cases Option.some.inj hput

/-- **Every step keeps what is known.** -/
theorem Kept.step {p : Tabs} (h : Kept gcm text p es) (a : Act Call Fate) :
    Kept gcm text (Async.step (system gcm text) p a)
      (es ++ [⟨p, a, Async.step (system gcm text) p a⟩]) := by
  generalize he : (⟨p, a, Async.step (system gcm text) p a⟩ : Happening) = e
  have hpre : e.pre = p := by rw [← he]
  have hcases := @step_cases gcm text p a
  dsimp only at hcases
  rw [he] at hcases
  rcases hcases with ⟨hnone, hsame⟩ | ⟨c, hnone, hstart⟩ |
    ⟨n, t, op, k, ht, htask, ⟨hnone, hfailed⟩ | ⟨hperformed, hdone⟩⟩
  · rw [hsame]
    exact h.quiet hnone rfl (fun n t ht => Or.inl ht) (fun n t r ht _ => ht) le_rfl
  · rw [hstart]
    refine h.quiet hnone rfl (fun n t ht => ?_) (fun n t r ht _ => ?_) (by simp)
    · rcases Signer.getElem?_of_append ht with hold | ⟨rfl, rfl⟩
      · exact Or.inl hold
      · exact Or.inr (Or.inl ⟨le_rfl, rfl⟩)
    · exact (List.getElem?_append_left (List.getElem?_eq_some_iff.1 ht).1).trans ht
  · rw [hfailed]
    refine h.quiet hnone rfl (fun m t' ht' => ?_) (fun m t' r ht' hdone => ?_) (by simp)
    · rcases Signer.getElem?_of_set ht' with ⟨rfl, rfl⟩ | ⟨-, hold⟩
      · exact Or.inr (Or.inr ⟨t, op, k, ht, rfl, htask, rfl⟩)
      · exact Or.inl hold
    · exact (List.getElem?_set_ne (ne_of_done ht htask ht' hdone).symm).trans ht'
  · rw [hdone]
    exact h.performs ht htask hpre hperformed

/-- The tabs after a run that begins with an empty store. -/
def after (gcm : AesGcm) (text : ConnectionText) (as : List (Act Call Fate)) : Tabs :=
  run (Async.step (system gcm text)) (Pool.init {}) as

/-- The events of the run. -/
def history (gcm : AesGcm) (text : ConnectionText) (as : List (Act Call Fate)) : List Happening :=
  events (Async.step (system gcm text)) (Pool.init {}) as

theorem kept_run (as : List (Act Call Fate)) : Kept gcm text (after gcm text as) (history gcm text as) := by
  unfold after history
  induction as using List.reverseRecOn with
  | nil =>
      refine ⟨fun n t value iv ht => ?_, fun n t ht => ?_, fun e he => ?_, fun key hkey => ?_,
        fun record hrecord => ?_, fun _ n => not_since_nil⟩
      · cases ht
      · cases ht
      · cases he
      · cases hkey
      · cases hrecord
  | append_singleton as a ih =>
      rw [run_concat, events_concat]
      exact ih.step a

/-- **What can be read is what was saved** by the call that put the last record, if no key was put since
that call had come to its own. -/
theorem readable_iff (gcm : AesGcm) (text : ConnectionText) (as : List (Act Call Fate))
    (value : StoredBunkerConnection) :
    readable gcm text (after gcm text as).store = some value ↔
      ∃ (n : ℕ) (t : Made) (iv : Bytes), (after gcm text as).threads[n]? = some t ∧
        t.call = .save value iv ∧
        Since (fun e => ¬ WritesRecord e) (Puts n) (history gcm text as) ∧
        Since (fun e => ¬ PutsKey e) (Gets n) (history gcm text as) := by
  have hkept : Kept gcm text (after gcm text as) (history gcm text as) := kept_run as
  constructor
  · intro hread
    obtain ⟨key', hkey', hread⟩ := Option.bind_eq_some_iff.1 hread
    obtain ⟨record, hrecord, hread⟩ := Option.bind_eq_some_iff.1 hread
    obtain ⟨n, t, value', iv, key, ht, hcall, -, hholds, rfl, hputs⟩ := hkept.record record hrecord
    unfold sealed at hread
    dsimp only at hread
    by_cases hsame : key' = key
    · subst hsame
      rw [gcm.decrypt_encrypt, Option.bind_some, decode_encode] at hread
      obtain rfl := Option.some.inj hread
      exact ⟨n, t, iv, ht, hcall, hputs, hholds.current.1 hkey'⟩
    · rw [gcm.decrypt_other key key' iv _ hsame] at hread
      cases hread
  · rintro ⟨n, t, iv, ht, hcall, hputs, hgets⟩
    cases hrecord : (after gcm text as).store.connection with
    | none => exact absurd hputs (hkept.absent hrecord n)
    | some record =>
        obtain ⟨n', t', value', iv', key, ht', hcall', -, hholds, rfl, hputs'⟩ :=
          hkept.record record hrecord
        -- the last record is put only once
        obtain ⟨e, -, ⟨r, hr⟩, r', hr'⟩ := exists_of_since
          (fun e h => ⟨n, Or.inl h⟩) (fun e h => ⟨n', Or.inl h⟩) hputs hputs'
        obtain rfl : n = n' := (Prod.mk.inj (Option.some.inj (hr.symm.trans hr'))).1
        obtain rfl := Option.some.inj (ht.symm.trans ht')
        obtain ⟨rfl, rfl⟩ := Call.save.inj (hcall.symm.trans hcall')
        unfold readable
        rw [hholds.current.2 hgets, hrecord]
        unfold sealed
        rw [Option.bind_some, Option.bind_some, gcm.decrypt_encrypt, Option.bind_some, decode_encode]

/-! ### Two calls that find no key -/

/-- Ciphertexts that tell their key by the zeros at their beginning. -/
def demoEncrypt : ℕ → Bytes → Bytes
  | 0, plaintext => 1 :: plaintext
  | key + 1, plaintext => 0 :: demoEncrypt key plaintext

def demoDecrypt : ℕ → Bytes → Option Bytes
  | 0, 1 :: plaintext => some plaintext
  | key + 1, 0 :: ciphertext => demoDecrypt key ciphertext
  | _, _ => none

def demoGcm : AesGcm where
  encrypt key _ := demoEncrypt key
  decrypt key _ := demoDecrypt key
  decrypt_encrypt key _ plaintext := by
    induction key with
    | zero => rfl
    | succ key ih => exact ih
  decrypt_other key key' _ plaintext h := by
    induction key generalizing key' with
    | zero =>
        cases key' with
        | zero => exact absurd rfl h
        | succ key' => rfl
    | succ key ih =>
        cases key' with
        | zero => rfl
        | succ key' => exact ih key' fun heq => h (congrArg Nat.succ heq)

instance encodableConnection : Encodable (Connection String) :=
  .ofLeftInjection (fun c => (c.clientSecretKey, c.bunkerPubkey, c.relays, c.secret, c.expectedPubkey))
    (fun c => some ⟨c.1, c.2.1, c.2.2.1, c.2.2.2.1, c.2.2.2.2⟩) fun _ => rfl

/-- Texts of so many zeros. -/
def demoText : ConnectionText where
  stringify c := List.replicate (Encodable.encode c) 0
  parse bytes := Encodable.decode bytes.length
  parse_stringify c := by rw [List.length_replicate, Encodable.encodek]

def demoConnection : StoredBunkerConnection :=
  { clientSecretKey := [7], bunkerPubkey := "b0", relays := ["wss://relay"], secret := none,
    expectedPubkey := "e0" }

/-- Two tabs save, and both find no key: the second puts its own after the first has stored its record. -/
def demoRace : List (Act Call Fate) :=
  [.start (.save demoConnection []), .start (.save demoConnection []), .resume 0 .succeeds,
    .resume 1 .succeeds, .resume 0 .succeeds, .resume 0 .succeeds, .resume 0 .succeeds,
    .resume 0 .succeeds, .resume 1 .succeeds, .resume 1 .succeeds]

/-- A tab that saves with no other. -/
def demoSave : List (Act Call Fate) :=
  .start (.save demoConnection []) :: List.replicate 5 (.resume 0 .succeeds)

/-- What a tab saves on its own can be read; of two that find no key, neither has saved what can be. -/
theorem readable_iff_demo :
    readable demoGcm demoText (after demoGcm demoText demoSave).store = some demoConnection ∧
      (after demoGcm demoText demoRace).store.connection.isSome = true ∧
      ¬ ∃ (n : ℕ) (t : Made) (iv : Bytes), (after demoGcm demoText demoRace).threads[n]? = some t ∧
        t.call = .save demoConnection iv ∧
        Since (fun e => ¬ WritesRecord e) (Puts n) (history demoGcm demoText demoRace) ∧
        Since (fun e => ¬ PutsKey e) (Gets n) (history demoGcm demoText demoRace) := by
  refine ⟨(readable_iff demoGcm demoText demoSave demoConnection).2 ⟨0, _, [], rfl, rfl, ?_, ?_⟩,
    by decide +kernel, fun h => ?_⟩
  · exact ⟨(history demoGcm demoText demoSave).take 5, _, [], rfl, ⟨_, rfl⟩, nofun⟩
  · refine ⟨(history demoGcm demoText demoSave).take 3, _,
      (history demoGcm demoText demoSave).drop 4, rfl, Or.inr ⟨_, rfl⟩, fun e he => ?_⟩
    rintro ⟨n, key, hputs⟩
    rcases List.mem_cons.1 he with rfl | he
    · exact nomatch hputs
    · obtain rfl := List.mem_singleton.1 he
      exact nomatch hputs
  · have hread := (readable_iff demoGcm demoText demoRace demoConnection).2 h
    have hnone : readable demoGcm demoText (after demoGcm demoText demoRace).store = none := by
      decide +kernel
    exact nomatch hnone.symm.trans hread

end BunkerStore
end Pwa
end SentinelMesh
