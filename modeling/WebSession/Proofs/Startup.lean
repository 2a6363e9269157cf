import WebSession.Proofs.SessionFactory.SameKeys
import WebSession.Proofs.SessionStore.Reload
import WebSession.Startup
import WebSession.Startup.ServerAddress

/-!
# WebSession.Proofs.Startup

**Which arguments a service starts with, and what it then has** (`starts_iff_usable`).

Starting makes the stores that the arguments ask for, before any key is looked at (`store_unkeyed_iff`),
and gives all of them the same keys (`store_setKeys_iff`). What it makes of arguments is one statement
(`factory_eq_ok_iff`), from which the rest follows. A secret for encryption is looked at only beside one
for signing (`starts_without_looking`).
-/

namespace WebSession.Startup

variable {m : Machine} {a : Arguments} {f f' : SessionFactory} {name : String}
  {names : List String} {pairs : List KeyPair} {s : SessionStore}

/-! ### Stores -/

/-- The names of all stores that there may be. -/
abbrev allNames : List String := [SessionFactory.cookieName, fileStore, memoryStore, redisStore]

/-- The arguments ask for a store of a kind under a name. -/
inductive Asks (a : Arguments) : String → StoreKind → Prop where
  | cookie : Asks a "cookie" .cookie
  | file : Asks a "file" (.serverSide "file")
  | memory : Asks a "memory" (.serverSide "memory")
  | redis : a.redisUrl ≠ "" → Asks a "redis" (.serverSide "redis")

/-- Only with an address is there a store on a key-value server. -/
theorem Asks.redisUrl_ne {kind : StoreKind} (h : Asks a "redis" kind) : a.redisUrl ≠ "" := by
  generalize hname : "redis" = name at h
  cases h with
  | redis hurl => exact hurl
  | _ => exact absurd hname (by decide)

/-- The directory of records is there, and what is given for the address of a key-value server is
one. -/
structure Reachable (m : Machine) (a : Arguments) : Prop where
  directory : m.isDirectory (recordsDir a m.temporaryDir) = true
  address : a.redisUrl = "" ∨ m.isAddress a.redisUrl = true

/-- The stores without keys. -/
def unkeyed (a : Arguments) : SessionFactory :=
  let always := addServerSide (addServerSide .new fileStore) memoryStore
  if a.redisUrl.isEmpty then always else addServerSide always redisStore

/-- **The stores are made** if they can be reached. -/
theorem stores_eq_ok_iff :
    stores m a = .ok f ↔ Reachable m a ∧ f = unkeyed a := by
  simp only [stores, unkeyed]
  cases hdir : m.isDirectory (recordsDir a m.temporaryDir) with
  | false =>
      refine iff_of_false (fun h => nomatch h) fun h => ?_
      cases hdir.symm.trans h.1.directory
  | true =>
      by_cases hurl : a.redisUrl = ""
      · have hreachable : Reachable m a := ⟨hdir, .inl hurl⟩
        simp only [hurl, hreachable, true_and]
        exact ⟨fun h => (Except.ok.inj h).symm, fun h => congrArg Except.ok h.symm⟩
      · have hurl' : a.redisUrl.isEmpty = false := by simpa using hurl
        cases hvalid : m.isAddress a.redisUrl with
        | false =>
            refine iff_of_false (fun h => ?_) fun h => ?_
            · simp only [hurl'] at h
              cases h
            · cases hvalid.symm.trans (h.1.address.resolve_left hurl)
        | true =>
            have hreachable : Reachable m a := ⟨hdir, .inr hvalid⟩
            simp only [hurl', hreachable, true_and]
            exact ⟨fun h => (Except.ok.inj h).symm, fun h => congrArg Except.ok h.symm⟩

theorem get?_addServerSide (f : SessionFactory) (added name : String) :
    (addServerSide f added).stores.get? name =
      if name = added then some { kind := .serverSide added } else f.stores.get? name := by
  rw [addServerSide, SessionFactory.setStore]
  split
  · rename_i h
    rw [h, Dict.get?_set_self]
  · rename_i h
    exact Dict.get?_set_of_ne h

theorem get?_new (name : String) :
    SessionFactory.new.stores.get? name =
      if name = SessionFactory.cookieName then some { kind := .cookie } else none := by
  rw [SessionFactory.new]
  split
  · rename_i h
    rw [h, Dict.get?_set_self]
  · rename_i h
    exact Dict.get?_set_of_ne h

theorem get?_unkeyed (a : Arguments) (name : String) :
    (unkeyed a).stores.get? name =
      if name = redisStore ∧ a.redisUrl ≠ "" then some { kind := .serverSide redisStore }
      else if name = memoryStore then some { kind := .serverSide memoryStore }
      else if name = fileStore then some { kind := .serverSide fileStore }
      else if name = SessionFactory.cookieName then some { kind := .cookie }
      else none := by
  rw [unkeyed]
  split
  · rename_i hurl
    rw [if_neg fun h => h.2 (by simpa using hurl), get?_addServerSide, get?_addServerSide, get?_new]
  · rename_i hurl
    simp only [get?_addServerSide, get?_new, show a.redisUrl ≠ "" by simpa using hurl, ne_eq,
      not_false_iff, and_true]

/-- **The stores** are those that the arguments ask for. -/
theorem store_unkeyed_iff :
    (unkeyed a).store name = .ok s ↔ Asks a name s.kind ∧ s.encoders = [] := by
  rw [SessionFactory.store_eq_ok_iff]
  constructor
  · intro h
    rw [get?_unkeyed] at h
    split_ifs at h with hredis hmemory hfile hcookie
    · obtain ⟨rfl, hurl⟩ := hredis
      cases h
      exact ⟨.redis hurl, rfl⟩
    · subst hmemory
      cases h
      exact ⟨.memory, rfl⟩
    · subst hfile
      cases h
      exact ⟨.file, rfl⟩
    · subst hcookie
      cases h
      exact ⟨.cookie, rfl⟩
  · obtain ⟨kind, encoders⟩ := s
    rintro ⟨hasks, rfl⟩
    rw [get?_unkeyed]
    cases hasks with
    | cookie => rfl
    | file => rfl
    | memory => rfl
    | redis hurl => rw [if_pos ⟨rfl, hurl⟩]; rfl

/-! ### Keys -/

/-- One name's turn: a store that is there gets the keys, and a name without a store is passed
over. -/
def GivesKeys (pairs : List KeyPair) (name : String) (f f' : SessionFactory) : Prop :=
  (∃ s, f.store name = .ok s) ∧ f.setStoreKeys name pairs = .ok f' ∨
    (∀ s, f.store name ≠ .ok s) ∧ f' = f

theorem setKeys_cons_eq_ok_iff :
    setKeys pairs f (name :: names) = .ok f' ↔
      ∃ f₁, GivesKeys pairs name f f₁ ∧ setKeys pairs f₁ names = .ok f' := by
  rw [setKeys]
  unfold GivesKeys
  cases hs : f.store name with
  | error e => simp
  | ok s =>
      cases hkeys : f.setStoreKeys name pairs with
      | error e => simp [bind, Except.bind]
      | ok f₁ => simp [bind, Except.bind]

/-- The store whose turn it is keeps its kind and gets the encoders of the pairs. -/
theorem GivesKeys.store_iff (h : GivesKeys pairs name f f') :
    f'.store name = .ok s ↔ ∃ s₀, f.store name = .ok s₀ ∧ s.kind = s₀.kind ∧
      KeyPair.encoders pairs s.maxLength = .ok s.encoders := by
  obtain ⟨-, hkeys⟩ | ⟨hnone, rfl⟩ := h
  · exact SessionFactory.store_setStoreKeys_iff hkeys
  · exact iff_of_false (hnone s) fun ⟨s₀, hs₀, _⟩ => hnone s₀ hs₀

theorem GivesKeys.store_of_ne {other : String} (h : GivesKeys pairs name f f')
    (hne : other ≠ name) : f'.store other = f.store other := by
  obtain ⟨-, hkeys⟩ | ⟨-, rfl⟩ := h
  · exact SessionFactory.store_setStoreKeys_of_ne hkeys hne
  · rfl

theorem store_setKeys_of_notMem (h : setKeys pairs f names = .ok f') (hname : name ∉ names) :
    f'.store name = f.store name := by
  induction names generalizing f with
  | nil =>
      cases h
      rfl
  | cons first more ih =>
      obtain ⟨f₁, hfirst, hmore⟩ := setKeys_cons_eq_ok_iff.mp h
      rw [List.mem_cons, not_or] at hname
      rw [ih hmore hname.2, hfirst.store_of_ne hname.1]

/-- **The stores with keys** are those that there were, of the kinds that they had, with the encoders
of the pairs. -/
theorem store_setKeys_iff (h : setKeys pairs f names = .ok f') (hname : name ∈ names) :
    f'.store name = .ok s ↔ ∃ s₀, f.store name = .ok s₀ ∧ s.kind = s₀.kind ∧
      KeyPair.encoders pairs s.maxLength = .ok s.encoders := by
  induction names generalizing f with
  | nil => cases hname
  | cons first more ih =>
      obtain ⟨f₁, hfirst, hmore⟩ := setKeys_cons_eq_ok_iff.mp h
      by_cases heq : name = first
      · subst heq
        by_cases hagain : name ∈ more
        · -- a store that is given the keys again has them as before
          rw [ih hmore hagain]
          constructor
          · rintro ⟨s₁, hs₁, hkind, hencoders⟩
            obtain ⟨s₀, hs₀, hkind₀, -⟩ := hfirst.store_iff.mp hs₁
            exact ⟨s₀, hs₀, hkind.trans hkind₀, hencoders⟩
          · rintro ⟨s₀, hs₀, hkind, hencoders⟩
            exact ⟨s, hfirst.store_iff.mpr ⟨s₀, hs₀, hkind, hencoders⟩, rfl, hencoders⟩
        · rw [store_setKeys_of_notMem hmore hagain, hfirst.store_iff]
      · rw [ih hmore ((List.mem_cons.mp hname).resolve_left heq), hfirst.store_of_ne heq]

/-- Pairs that are accepted can be set, whatever stores there are. -/
theorem exists_setKeys (h : ∀ pair ∈ pairs, pair.Accepted) (f : SessionFactory)
    (names : List String) : ∃ f', setKeys pairs f names = .ok f' := by
  induction names generalizing f with
  | nil => exact ⟨f, rfl⟩
  | cons first more ih =>
      have hgives : ∃ f₁, GivesKeys pairs first f f₁ := by
        cases hs : f.store first with
        | error e => exact ⟨f, .inr ⟨fun s h => (nomatch hs.symm.trans h), rfl⟩⟩
        | ok s =>
            obtain ⟨encoders, hencoders⟩ := (KeyPair.exists_encoders_iff pairs s.maxLength).mpr h
            exact ⟨_, .inl ⟨⟨s, hs⟩,
              SessionFactory.setStoreKeys_eq_ok_iff.mpr ⟨s, encoders, hs, hencoders, rfl⟩⟩⟩
      obtain ⟨f₁, hfirst⟩ := hgives
      obtain ⟨f', hmore⟩ := ih f₁
      exact ⟨f', setKeys_cons_eq_ok_iff.mpr ⟨f₁, hfirst, hmore⟩⟩

/-! ### Secrets -/

/-- The keys of a secret that signs and one that encrypts, whether or not they are empty. -/
def pairOf (signing encrypting : Secret) : KeyPair where
  hashKey := Bytes.ofText signing.reveal
  blockKey? := encrypting.bytes?

/-- The cipher can do with the secret: it is empty, or it has as many octets as a key. -/
def Secret.Encrypts (secret : Secret) : Prop :=
  secret.reveal = "" ∨ secret.reveal.utf8ByteSize = 16 ∨ secret.reveal.utf8ByteSize = 24 ∨
    secret.reveal.utf8ByteSize = 32

theorem Secret.bytes?_eq (secret : Secret) :
    secret.bytes? = if secret.reveal = "" then none else some (Bytes.ofText secret.reveal) := by
  simp [bytes?]

/-- An encrypting secret counts beside a signing one, and alone it does not. -/
theorem generation_eq (signing encrypting : Secret) :
    generation signing encrypting =
      if signing.reveal = "" then [] else [pairOf signing encrypting] := by
  rw [generation, Secret.bytes?_eq]
  split_ifs <;> rfl

theorem accepted_pairOf_iff {signing encrypting : Secret} :
    (pairOf signing encrypting).Accepted ↔ signing.reveal ≠ "" ∧ encrypting.Encrypts := by
  have hknown : (∀ key ∈ encrypting.bytes?,
      key.length = 16 ∨ key.length = 24 ∨ key.length = 32) ↔ encrypting.Encrypts := by
    rw [Secret.bytes?_eq, Secret.Encrypts]
    split_ifs with h
    · simp [h]
    · simp [h, Bytes.length_ofText]
  rw [← Bytes.ofText_ne_nil_iff, ← hknown]
  exact ⟨fun h => ⟨h.hashKey_ne_nil, h.known⟩, fun h => ⟨h.1, h.2⟩⟩

theorem keyPairs_ne_nil_iff :
    keyPairs a ≠ [] ↔ a.secretKey.reveal ≠ "" ∨ a.previousSecretKey.reveal ≠ "" := by
  rw [keyPairs, generation_eq, generation_eq]
  split_ifs <;> simp_all

theorem accepted_generation_iff {signing encrypting : Secret} :
    (∀ pair ∈ generation signing encrypting, pair.Accepted) ↔
      (signing.reveal ≠ "" → encrypting.Encrypts) := by
  rw [generation_eq]
  split_ifs with h
  · simp [h]
  · simp [h, accepted_pairOf_iff]

theorem accepted_keyPairs_iff :
    (∀ pair ∈ keyPairs a, pair.Accepted) ↔
      (a.secretKey.reveal ≠ "" → a.encryptionKey.Encrypts) ∧
        (a.previousSecretKey.reveal ≠ "" → a.previousEncryptionKey.Encrypts) := by
  rw [keyPairs, List.forall_mem_append, accepted_generation_iff, accepted_generation_iff]

/-! ### Starting -/

/-- **What starting makes of arguments**: the stores that they ask for, if these can be reached, with
the keys that they give, if there are any. -/
theorem factory_eq_ok_iff :
    factory m a = .ok f ↔ Reachable m a ∧ keyPairs a ≠ [] ∧
      ∃ f₁, setKeys (keyPairs a) (unkeyed a) allNames = .ok f₁ ∧
        f = { f₁ with defaultConfig := sessionConfig a } := by
  rw [factory]
  cases hstores : stores m a with
  | error e =>
      refine iff_of_false (fun h => nomatch h) fun h => ?_
      cases hstores.symm.trans (stores_eq_ok_iff.mpr ⟨h.1, rfl⟩)
  | ok f₀ =>
      obtain ⟨hreachable, rfl⟩ := stores_eq_ok_iff.mp hstores
      by_cases hpairs : keyPairs a = []
      · refine iff_of_false (fun h => ?_) fun h => h.2.1 hpairs
        simp only [hpairs] at h
        cases h
      · have hkeys : (keyPairs a).isEmpty = false := by simpa using hpairs
        simp only [bind, Except.bind, hkeys, hreachable, hpairs, ne_eq, not_false_iff, true_and]
        cases hset : setKeys (keyPairs a) (unkeyed a) allNames with
        | error e => simp
        | ok f₁ => simp [eq_comm, pure, Except.pure]

theorem Asks.mem_allNames {kind : StoreKind} (h : Asks a name kind) : name ∈ allNames := by
  cases h <;> decide

/-- **The stores of a service** are those that the arguments ask for, all with the keys that they
give. -/
theorem store_factory_iff (h : factory m a = .ok f) :
    f.store name = .ok s ↔ Asks a name s.kind ∧ s.Keyed (keyPairs a) := by
  obtain ⟨-, hpairs, f₁, hset, rfl⟩ := factory_eq_ok_iff.mp h
  show f₁.store name = .ok s ↔ _
  by_cases hname : name ∈ allNames
  · rw [store_setKeys_iff hset hname]
    constructor
    · rintro ⟨s₀, hs₀, hkind, hencoders⟩
      exact ⟨hkind ▸ (store_unkeyed_iff.mp hs₀).1, hpairs, hencoders⟩
    · rintro ⟨hasks, -, hencoders⟩
      exact ⟨{ kind := s.kind }, store_unkeyed_iff.mpr ⟨hasks, rfl⟩, rfl, hencoders⟩
  · rw [store_setKeys_of_notMem hset hname]
    exact iff_of_false (fun hs => hname (store_unkeyed_iff.mp hs).1.mem_allNames)
      fun hs => hname hs.1.mem_allNames

/-- **A service starts** if its stores can be reached, and there are keys which all are accepted. -/
theorem exists_factory_iff :
    (∃ f, factory m a = .ok f) ↔ Reachable m a ∧ keyPairs a ≠ [] ∧
      ∀ pair ∈ keyPairs a, pair.Accepted := by
  constructor
  · rintro ⟨f, h⟩
    obtain ⟨hreachable, hpairs, f₁, hset, -⟩ := factory_eq_ok_iff.mp h
    refine ⟨hreachable, hpairs, ?_⟩
    -- the cookie store always is there, and it is the first to be given the keys
    have hcookie : (unkeyed a).store SessionFactory.cookieName = .ok { kind := .cookie } :=
      store_unkeyed_iff.mpr ⟨.cookie, rfl⟩
    obtain ⟨f₂, hfirst, -⟩ := setKeys_cons_eq_ok_iff.mp hset
    obtain ⟨-, hkeys⟩ | ⟨hnone, -⟩ := hfirst
    · obtain ⟨s, encoders, -, hencoders, -⟩ := SessionFactory.setStoreKeys_eq_ok_iff.mp hkeys
      exact (KeyPair.exists_encoders_iff _ s.maxLength).mp ⟨encoders, hencoders⟩
    · exact absurd hcookie (hnone _)
  · rintro ⟨hreachable, hpairs, haccepted⟩
    obtain ⟨f₁, hset⟩ := exists_setKeys haccepted (unkeyed a) allNames
    exact ⟨_, factory_eq_ok_iff.mpr ⟨hreachable, hpairs, f₁, hset, rfl⟩⟩

/-- The arguments can be used: the stores can be reached, something signs, and the cipher can do with
what encrypts beside it. -/
structure Usable (m : Machine) (a : Arguments) : Prop extends
    Reachable m a where
  signs : a.secretKey.reveal ≠ "" ∨ a.previousSecretKey.reveal ≠ ""
  encrypts : a.secretKey.reveal ≠ "" → a.encryptionKey.Encrypts
  encrypted : a.previousSecretKey.reveal ≠ "" → a.previousEncryptionKey.Encrypts

theorem exists_factory_iff_usable (m : Machine) (a : Arguments) :
    (∃ f, factory m a = .ok f) ↔ Usable m a := by
  rw [exists_factory_iff, keyPairs_ne_nil_iff, accepted_keyPairs_iff]
  exact ⟨fun ⟨hreachable, hsigns, hencrypts, hencrypted⟩ =>
      ⟨hreachable, hsigns, hencrypts, hencrypted⟩,
    fun h => ⟨h.toReachable, h.signs, h.encrypts, h.encrypted⟩⟩

/-- Every store that the arguments ask for is there. -/
theorem exists_store {kind : StoreKind} (h : factory m a = .ok f)
    (hasks : Asks a name kind) : ∃ s, f.store name = .ok s ∧ s.kind = kind := by
  obtain ⟨-, hpairs, haccepted⟩ := exists_factory_iff.mp ⟨f, h⟩
  obtain ⟨encoders, hencoders⟩ := (KeyPair.exists_encoders_iff (keyPairs a)
    (SessionStore.maxLength { kind := kind })).mpr haccepted
  exact ⟨{ kind := kind, encoders := encoders },
    (store_factory_iff h).mpr ⟨hasks, hpairs, hencoders⟩, rfl⟩

/-- **A service starts with arguments that can be used**, and with no others. It then has the stores
that they ask for and no others. All have the keys that the arguments give, the current ones first,
and of a text that is within the limits of two of the stores both make the same, the errors
included. -/
theorem starts_iff_usable (m : Machine) (a : Arguments) :
    ((∃ f, factory m a = .ok f) ↔ Usable m a) ∧
      ∀ f, factory m a = .ok f →
        (∀ name kind, (∃ s, f.store name = .ok s ∧ s.kind = kind) ↔ Asks a name kind) ∧
          (∀ name s, f.store name = .ok s → s.Keyed (keyPairs a)) ∧
            ∀ name name' s s', f.store name = .ok s → f.store name' = .ok s' →
              ∀ key now text, Fits s.maxLength text → Fits s'.maxLength text →
                Encoders.decode s.encoders key now text =
                  Encoders.decode s'.encoders key now text := by
  refine ⟨exists_factory_iff_usable m a, fun f h => ?_⟩
  have hkeyed : ∀ name s, f.store name = .ok s → s.Keyed (keyPairs a) :=
    fun name s hs => ((store_factory_iff h).mp hs).2
  refine ⟨fun name kind => ⟨?_, exists_store h⟩, hkeyed, fun name name' s s' hs hs' => ?_⟩
  · rintro ⟨s, hs, rfl⟩
    exact ((store_factory_iff h).mp hs).1
  · intro key now text
    exact SessionStore.decode_eq_of_same_pairs (hkeyed name s hs).2 (hkeyed name' s' hs').2

/-- A machine with a directory for temporary files and no other. -/
def bareMachine : Machine where
  isDirectory path := path = "/tmp"
  temporaryDir := "/tmp"
  isAddress := ServerAddress.isValid

/-- Arguments with an encrypting secret that no cipher can do with, and nothing current that signs. -/
def unsignedArguments : Arguments where
  encryptionKey := ⟨"short"⟩
  previousSecretKey := ⟨"old"⟩

/-- A service starts with a bad encrypting secret that has no signing secret beside it. There is no
store on a key-value server, and the cookie store and the store of files have the previous secret
alone and make the same of a text. -/
theorem starts_without_looking :
    ∃ f, factory bareMachine unsignedArguments = .ok f ∧ (∀ s, f.store "redis" ≠ .ok s) ∧
      ∃ cookie file, f.store "cookie" = .ok cookie ∧ cookie.kind = .cookie ∧
        f.store "file" = .ok file ∧ file.kind = .serverSide "file" ∧
          file.Keyed [{ hashKey := Bytes.ofText "old", blockKey? := none }] ∧
            Encoders.decode cookie.encoders "s" 1700000000 "olia" =
              Encoders.decode file.encoders "s" 1700000000 "olia" := by
  obtain ⟨hstarts, hmakes⟩ := starts_iff_usable bareMachine unsignedArguments
  obtain ⟨f, hf⟩ := hstarts.mpr
    { directory := by decide
      address := .inl rfl
      signs := .inr (by decide)
      encrypts := fun h => absurd rfl h
      encrypted := fun _ => .inl rfl }
  obtain ⟨hstores, hkeyed, hreads⟩ := hmakes f hf
  obtain ⟨cookie, hcookie, hcookieKind⟩ := (hstores "cookie" .cookie).mpr .cookie
  obtain ⟨file, hfile, hfileKind⟩ := (hstores "file" (.serverSide "file")).mpr .file
  have hfits : Fits cookie.maxLength "olia" := by
    rw [SessionStore.maxLength, hcookieKind]
    exact .inr (by decide)
  have hfits' : Fits file.maxLength "olia" := by
    rw [SessionStore.maxLength, hfileKind]
    exact .inl rfl
  exact ⟨f, hf, fun s hs => ((hstores "redis" s.kind).mp ⟨s, hs, rfl⟩).redisUrl_ne rfl, cookie, file,
    hcookie, hcookieKind, hfile, hfileKind, hkeyed _ file hfile,
    hreads _ _ cookie file hcookie hfile _ _ _ hfits hfits'⟩

end WebSession.Startup
