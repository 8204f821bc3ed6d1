import Usque.App.EnrollReference
import Usque.Lib.Fault

namespace Usque

section agreement

variable (C : Crates)

-- The public key of the private key in the file, as the server has it.
def storedKey (file : Except String String) : Option String :=
  match Config.load C file with
  | .error _ => none
  | .ok cfg =>
      match cfg.getSigningKey C with
      | .error _ => none
      | .ok key => (C.p256.toPublicKeyDer key).toOption.map C.base64.encode

def Enrolment.Agrees (w : Enrolment) : Prop :=
  ∃ key, w.accepted = some key ∧ storedKey C w.file = some key

-- The three validations.
structure AccountData.Usable (updated : AccountData) (cfg : Config) : Prop where
  endpoint : ¬ (isBlank (((updated.config.peers.bind List.head?).bind Peer.endpoint).bind
      Endpoint.v4 |>.getD cfg.endpointV4) ∧
    isBlank (((updated.config.peers.bind List.head?).bind Peer.endpoint).bind
      Endpoint.v6 |>.getD cfg.endpointV6))
  publicKey : ¬ isBlank ((updated.config.peers.bind List.head?).map Peer.publicKey |>.getD
    cfg.endpointPubKey)
  addresses : ¬ (isBlank ((updated.config.interfaceConfig.bind InterfaceConfig.addresses).bind
      Addresses.v4 |>.getD cfg.ipv4) ∧
    isBlank ((updated.config.interfaceConfig.bind InterfaceConfig.addresses).bind
      Addresses.v6 |>.getD cfg.ipv6))

def newConfig (cfg : Config) (updated : AccountData) (privateKeyDer : List UInt8) : Config :=
  let peer := updated.config.peers.bind List.head?
  let endpoint := peer.bind Peer.endpoint
  let addresses := updated.config.interfaceConfig.bind InterfaceConfig.addresses
  { privateKey := C.base64.encode privateKeyDer
    endpointV4 := (endpoint.bind Endpoint.v4).getD cfg.endpointV4
    endpointV6 := (endpoint.bind Endpoint.v6).getD cfg.endpointV6
    endpointPubKey := (peer.map Peer.publicKey).getD cfg.endpointPubKey
    license := updated.account.license.getD cfg.license
    id := updated.id
    accessToken := cfg.accessToken
    ipv4 := (addresses.bind Addresses.v4).getD cfg.ipv4
    ipv6 := (addresses.bind Addresses.v6).getD cfg.ipv6 }

-- The response is decoded, it is usable with the config on disk, and the new config has a text.
def ReachesWrite (cfg : Config) (pair : EcKeyPair) (reply : ApiReply) : Prop :=
  ∃ updated text, CloudflareClient.receive reply = .ok updated ∧ updated.Usable cfg ∧
    C.json.toStringPretty (newConfig C cfg updated pair.privateKeyDer) = .ok text

-- Once the server has taken the key: the config is written, or the key is in the file anyway.
def KeyKept (cfg : Config) (pair : EcKeyPair) (o : EnrollOutcomes C) (w : Enrolment) : Prop :=
  let key := some (C.base64.encode pair.publicKeyDer)
  (ReachesWrite C cfg pair o.reply ∧
    match o.write with
    | .done => True
    | .failed _ left => storedKey C left = key) ∨
  (¬ ReachesWrite C cfg pair o.reply ∧ storedKey C w.file = key)

def KeepsAgreement (regenKey : Bool) (o : EnrollOutcomes C) (w : Enrolment) : Prop :=
  (∃ cfg pair, Config.load C w.file = .ok cfg ∧
    enrollKeyPair C cfg regenKey o.random = .ok pair ∧ CloudflareClient.accepts o.reply = true ∧
    KeyKept C cfg pair o w) ∨
  ((∀ cfg pair, Config.load C w.file = .ok cfg →
      enrollKeyPair C cfg regenKey o.random = .ok pair →
      CloudflareClient.accepts o.reply = false) ∧ w.Agrees C)

end agreement

section lemmas

variable {C : Crates} {cfg newCfg : Config} {pair : EcKeyPair} {regenKey : Bool}

theorem updatedConfig_ok {updated : AccountData} {der : List UInt8} :
    updatedConfig C cfg updated der = .ok newCfg ↔
      updated.Usable cfg ∧ newCfg = newConfig C cfg updated der := by
  simp only [updatedConfig]
  split_ifs with hendpoint hkey haddresses
  · refine ⟨nofun, fun h => absurd (Bool.and_eq_true_iff.mp hendpoint) h.1.endpoint⟩
  · exact ⟨nofun, fun h => absurd hkey h.1.publicKey⟩
  · exact ⟨nofun, fun h => absurd (Bool.and_eq_true_iff.mp haddresses) h.1.addresses⟩
  · constructor
    · intro h
      cases h
      rw [Bool.and_eq_true_iff] at hendpoint haddresses
      exact ⟨⟨hendpoint, hkey, haddresses⟩, rfl⟩
    · rintro ⟨_, rfl⟩
      rfl

-- The private key of the pair, read back from its DER, has the public key of the pair.
theorem enrollKeyPair_signs (hC : C.Lawful) {random : C.p256.SigningKey}
    (h : enrollKeyPair C cfg regenKey random = .ok pair) :
    ∃ key, Config.signingKeyOfDer C pair.privateKeyDer = .ok key ∧
      C.p256.toPublicKeyDer key = .ok pair.publicKeyDer := by
  cases regenKey with
  | true =>
      have hpair : generateEcKeyPair C.p256 random = .ok pair := Result.mapError_eq_ok.mp h
      obtain ⟨privateKeyDer, hprivate, hpair⟩ := Result.bind_eq_ok.mp hpair
      obtain ⟨publicKeyDer, hpublic, hpair⟩ := Result.bind_eq_ok.mp hpair
      cases hpair
      refine ⟨random, ?_, Result.mapError_eq_ok.mp hpublic⟩
      rw [Config.signingKeyOfDer, hC.fromSec1Der (Result.mapError_eq_ok.mp hprivate)]
  | false =>
      obtain ⟨key, hkey, hpair⟩ := Result.bind_eq_ok.mp h
      obtain ⟨publicKeyDer, hpublic, hpair⟩ := Result.bind_eq_ok.mp hpair
      obtain ⟨privateKeyDer, hprivate, hpair⟩ := Result.bind_eq_ok.mp hpair
      cases hpair
      obtain ⟨der, hder, hkey⟩ := Result.bind_eq_ok.mp (Result.mapError_eq_ok.mp hkey)
      rw [Result.mapError_eq_ok.mp hprivate] at hder
      cases hder
      exact ⟨key, hkey, Result.mapError_eq_ok.mp hpublic⟩

theorem Crates.Lawful.encode_inj (hC : C.Lawful) {a b : List UInt8}
    (h : C.base64.encode a = C.base64.encode b) : a = b := by
  have hdecode := congrArg C.base64.decode h
  rw [hC.decode, hC.decode] at hdecode
  exact Except.ok.inj hdecode

theorem storedKey_text (hC : C.Lawful) {text : String} {der publicKeyDer : List UInt8}
    {key : C.p256.SigningKey} (htext : C.json.toStringPretty cfg = .ok text)
    (hprivate : cfg.privateKey = C.base64.encode der)
    (hkey : Config.signingKeyOfDer C der = .ok key)
    (hpublic : C.p256.toPublicKeyDer key = .ok publicKeyDer) :
    storedKey C (.ok text) = some (C.base64.encode publicKeyDer) := by
  have hload : Config.load C (.ok text) = .ok cfg :=
    Result.bind_eq_ok.mpr ⟨text, rfl, Result.mapError_eq_ok.mpr (hC.fromStr htext)⟩
  have hsign : cfg.getSigningKey C = .ok key := by
    refine Result.bind_eq_ok.mpr ⟨der, Result.mapError_eq_ok.mpr ?_, hkey⟩
    rw [hprivate]
    exact hC.decode der
  simp only [storedKey, hload, hsign, hpublic]
  rfl

theorem storedKey_written (hC : C.Lawful) {random : C.p256.SigningKey} {updated : AccountData}
    {text : String} (hpair : enrollKeyPair C cfg regenKey random = .ok pair)
    (htext : C.json.toStringPretty (newConfig C cfg updated pair.privateKeyDer) = .ok text) :
    storedKey C (.ok text) = some (C.base64.encode pair.publicKeyDer) := by
  obtain ⟨key, hkey, hpublic⟩ := enrollKeyPair_signs hC hpair
  exact storedKey_text hC htext rfl hkey hpublic

theorem reachesWrite_of {o : ApiReply} {updated : AccountData} {text : String}
    (hreply : CloudflareClient.receive o = .ok updated)
    (hcfg : updatedConfig C cfg updated pair.privateKeyDer = .ok newCfg)
    (htext : C.json.toStringPretty newCfg = .ok text) : ReachesWrite C cfg pair o := by
  obtain ⟨husable, rfl⟩ := updatedConfig_ok.mp hcfg
  exact ⟨updated, text, hreply, husable, htext⟩

theorem ReachesWrite.cases {o : ApiReply} (h : ReachesWrite C cfg pair o) :
    ∃ updated newCfg text, CloudflareClient.receive o = .ok updated ∧
      updatedConfig C cfg updated pair.privateKeyDer = .ok newCfg ∧
      C.json.toStringPretty newCfg = .ok text := by
  obtain ⟨updated, text, hreply, husable, htext⟩ := h
  exact ⟨updated, _, text, hreply, updatedConfig_ok.mpr ⟨husable, rfl⟩, htext⟩

theorem receive_of_not_accepts {reply : ApiReply} (h : CloudflareClient.accepts reply = false) :
    ∃ e, CloudflareClient.receive reply = .error e := by
  cases reply with
  | failed e taken => exact ⟨_, rfl⟩
  | response r =>
      have hr : CloudflareClient.isSuccess r = false := h
      simp only [CloudflareClient.receive, hr]
      exact ⟨_, rfl⟩

end lemmas

section world

variable {C : Crates} {cfg : Config} {pair : EcKeyPair} {regenKey : Bool}
  {deviceName : Option String} {o : EnrollOutcomes C} {w : Enrolment}

-- The server's side of the call.
def afterReply (C : Crates) (pair : EcKeyPair) (reply : ApiReply) (w : Enrolment) : Enrolment :=
  { w with accepted :=
      if CloudflareClient.accepts reply then some (C.base64.encode pair.publicKeyDer)
      else w.accepted }

theorem enrollKey_eq : CloudflareClient.enrollKey C.base64 cfg.id cfg.accessToken
    pair.publicKeyDer deviceName o.reply w =
      (CloudflareClient.receive o.reply, afterReply C pair o.reply w) := by
  simp only [CloudflareClient.enrollKey, afterReply]
  split <;> rfl

theorem enrollDevice_unloaded (h : ∀ cfg pair, Config.load C w.file = .ok cfg →
    enrollKeyPair C cfg regenKey o.random ≠ .ok pair) :
    (enrollDevice C deviceName regenKey o w).2 = w := by
  cases hload : Config.load C w.file with
  | error e => simp only [enrollDevice, hload]
  | ok cfg =>
      cases hpair : enrollKeyPair C cfg regenKey o.random with
      | error e => simp only [enrollDevice, hload, hpair]
      | ok pair => exact absurd hpair (h cfg pair hload)

theorem enrollDevice_refused (hload : Config.load C w.file = .ok cfg)
    (hpair : enrollKeyPair C cfg regenKey o.random = .ok pair) {e : ApiClientError}
    (hreply : CloudflareClient.receive o.reply = .error e) :
    enrollDevice C deviceName regenKey o w = (.error (.api e), afterReply C pair o.reply w) := by
  simp only [enrollDevice, hload, hpair, enrollKey_eq, hreply]

-- Up to the write the file is as it was.
theorem enrollDevice_unwritten (hload : Config.load C w.file = .ok cfg)
    (hpair : enrollKeyPair C cfg regenKey o.random = .ok pair)
    (h : ¬ ReachesWrite C cfg pair o.reply) :
    (enrollDevice C deviceName regenKey o w).2 = afterReply C pair o.reply w := by
  cases hreply : CloudflareClient.receive o.reply with
  | error e => rw [enrollDevice_refused hload hpair hreply]
  | ok updated =>
      simp only [enrollDevice, hload, hpair, enrollKey_eq, hreply]
      cases hcfg : updatedConfig C cfg updated pair.privateKeyDer with
      | error text => rfl
      | ok newCfg =>
          cases htext : C.json.toStringPretty newCfg with
          | error e => simp only [Config.save, htext]
          | ok text => exact absurd (reachesWrite_of hreply hcfg htext) h

theorem enrollDevice_written (deviceName : Option String)
    (hload : Config.load C w.file = .ok cfg)
    (hpair : enrollKeyPair C cfg regenKey o.random = .ok pair)
    (h : ReachesWrite C cfg pair o.reply) :
    ∃ updated text,
      C.json.toStringPretty (newConfig C cfg updated pair.privateKeyDer) = .ok text ∧
      (enrollDevice C deviceName regenKey o w).2 =
        { afterReply C pair o.reply w with
          file := match o.write with
            | .done => .ok text
            | .failed _ left => left } := by
  obtain ⟨updated, text, hreply, husable, htext⟩ := h
  have hcfg : updatedConfig C cfg updated pair.privateKeyDer =
      .ok (newConfig C cfg updated pair.privateKeyDer) := updatedConfig_ok.mpr ⟨husable, rfl⟩
  refine ⟨updated, text, htext, ?_⟩
  simp only [enrollDevice, hload, hpair, enrollKey_eq, hreply, hcfg, Config.save, htext]
  cases o.write <;> rfl

theorem agrees_of_accepts (hacc : CloudflareClient.accepts o.reply = true)
    (file : Except String String) :
    Enrolment.Agrees C { afterReply C pair o.reply w with file } ↔
      storedKey C file = some (C.base64.encode pair.publicKeyDer) := by
  simp only [Enrolment.Agrees, afterReply, hacc, if_true, Option.some.injEq]
  exact ⟨fun ⟨key, hkey, hfile⟩ => hkey ▸ hfile, fun hfile => ⟨_, rfl, hfile⟩⟩

theorem keepsAgreement_loaded (hload : Config.load C w.file = .ok cfg)
    (hpair : enrollKeyPair C cfg regenKey o.random = .ok pair) :
    KeepsAgreement C regenKey o w ↔
      (CloudflareClient.accepts o.reply = true ∧ KeyKept C cfg pair o w) ∨
        (CloudflareClient.accepts o.reply = false ∧ w.Agrees C) := by
  constructor
  · rintro (⟨cfg', pair', hload', hpair', hkept⟩ | ⟨hall, hw⟩)
    · rw [hload] at hload'
      cases hload'
      rw [hpair] at hpair'
      cases hpair'
      exact .inl hkept
    · exact .inr ⟨hall cfg pair hload hpair, hw⟩
  · rintro (hkept | ⟨hacc, hw⟩)
    · exact .inl ⟨cfg, pair, hload, hpair, hkept⟩
    · exact .inr ⟨fun _ _ _ _ => hacc, hw⟩

theorem agrees_iff_keyKept (hC : C.Lawful) (hload : Config.load C w.file = .ok cfg)
    (hpair : enrollKeyPair C cfg regenKey o.random = .ok pair)
    (hacc : CloudflareClient.accepts o.reply = true) :
    (enrollDevice C deviceName regenKey o w).2.Agrees C ↔ KeyKept C cfg pair o w := by
  by_cases hreach : ReachesWrite C cfg pair o.reply
  · obtain ⟨updated, text, htext, hworld⟩ :=
      enrollDevice_written deviceName hload hpair hreach
    rw [hworld, agrees_of_accepts hacc]
    simp only [KeyKept, hreach, true_and, not_true_eq_false, false_and, or_false]
    cases o.write with
    | done => exact iff_true_intro (storedKey_written hC hpair htext)
    | failed e left => exact Iff.rfl
  · rw [enrollDevice_unwritten hload hpair hreach]
    simp only [KeyKept, hreach, false_and, not_false_eq_true, true_and, false_or]
    exact agrees_of_accepts hacc w.file

theorem agrees_iff_before (hload : Config.load C w.file = .ok cfg)
    (hpair : enrollKeyPair C cfg regenKey o.random = .ok pair)
    (hacc : CloudflareClient.accepts o.reply = false) :
    (enrollDevice C deviceName regenKey o w).2.Agrees C ↔ w.Agrees C := by
  obtain ⟨e, he⟩ := receive_of_not_accepts hacc
  have hreach : ¬ ReachesWrite C cfg pair o.reply := by
    rintro ⟨updated, text, hreply, _⟩
    rw [he] at hreply
    cases hreply
  have hsame : afterReply C pair o.reply w = w := by
    simp only [afterReply, hacc, Bool.false_eq_true, if_false]
  rw [enrollDevice_unwritten hload hpair hreach, hsame]

end world

namespace EnrollScript

def endpointPem : String :=
  "-----BEGIN PUBLIC KEY-----\n" ++
    "MFkwEwYHKoZIzj0CAQYIKoZIzj0DAQcDQgAEaxfR8uEsQkf4vOblY6RA8ncDfYEt\n" ++
    "6zOg9KE5RdiYwpZP40Li/hp/m47n60p8D54WK84zV2sxXs7LtkBoN79R9Q==\n" ++
    "-----END PUBLIC KEY-----\n"

def onDisk : Config where
  privateKey := referenceCrates.base64.encode ReferenceKey.one.sec1Der
  endpointV4 := "162.159.198.1"
  endpointV6 := "2606:4700:103::1"
  endpointPubKey := endpointPem
  license := ""
  id := "t.4ad5"
  accessToken := "6b1f"
  ipv4 := "172.16.0.2"
  ipv6 := "2606:4700:110::2"

def enrolled : Enrolment where
  file := .ok (ReferenceJson.text onDisk)
  accepted := some (referenceCrates.base64.encode ReferenceKey.one.publicKeyDer)

def updated : AccountData where
  id := "t.4ad5"
  account := ⟨none⟩
  config :=
    { peers := some [⟨endpointPem, some ⟨some "162.159.198.2", none⟩⟩]
      interfaceConfig := some ⟨some ⟨some "172.16.0.2", none⟩⟩ }

def rotated : EnrollOutcomes referenceCrates where
  random := ReferenceKey.two
  reply := .response ⟨200, "200 OK", .error "body was read as JSON", .ok updated⟩
  write := .done

-- The server has taken the key, and its body is not an AccountData.
def undecodable : EnrollOutcomes referenceCrates where
  random := ReferenceKey.two
  reply := .response ⟨200, "200 OK", .error "body was read as JSON",
    .error "error decoding response body"⟩
  write := .done

theorem onDisk_text :
    referenceCrates.json.toStringPretty onDisk = .ok (ReferenceJson.text onDisk) :=
  toStringPretty_plain (ReferenceJson.isPlain_of rfl (by decide +kernel))

theorem onDisk_load : Config.load referenceCrates enrolled.file = .ok onDisk :=
  Result.bind_eq_ok.mpr ⟨_, rfl,
    Result.mapError_eq_ok.mpr (referenceCrates_lawful.fromStr onDisk_text)⟩

theorem onDisk_key : storedKey referenceCrates enrolled.file =
    some (referenceCrates.base64.encode ReferenceKey.one.publicKeyDer) := by
  have hsec1 : referenceCrates.p256.toSec1Der ReferenceKey.one = .ok ReferenceKey.one.sec1Der := rfl
  have hkey : Config.signingKeyOfDer referenceCrates ReferenceKey.one.sec1Der =
      .ok ReferenceKey.one := by
    rw [Config.signingKeyOfDer, referenceCrates_lawful.fromSec1Der hsec1]
  exact storedKey_text referenceCrates_lawful onDisk_text rfl hkey rfl

end EnrollScript

end Usque
