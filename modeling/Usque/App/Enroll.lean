import Mathlib.Logic.Basic

namespace Usque

structure Config where
  privateKey : String
  endpointV4 : String
  endpointV6 : String
  endpointPubKey : String
  license : String
  id : String
  accessToken : String
  ipv4 : String
  ipv6 : String
deriving DecidableEq, Repr

-- What the crates do, each error as its text.
structure SerdeJson where
  fromStr : String → Except String Config
  toStringPretty : Config → Except String String

structure Base64Engine where
  encode : List UInt8 → String
  decode : String → Except String (List UInt8)

structure P256 where
  SigningKey : Type
  fromSec1Der : List UInt8 → Except String SigningKey
  fromPkcs8Der : List UInt8 → Except String SigningKey
  toSec1Der : SigningKey → Except String (List UInt8)
  toPublicKeyDer : SigningKey → Except String (List UInt8)

structure Crates where
  json : SerdeJson
  base64 : Base64Engine
  p256 : P256

structure Crates.Lawful (C : Crates) : Prop where
  fromStr : ∀ {cfg text}, C.json.toStringPretty cfg = .ok text → C.json.fromStr text = .ok cfg
  decode : ∀ bytes, C.base64.decode (C.base64.encode bytes) = .ok bytes
  fromSec1Der : ∀ {key der}, C.p256.toSec1Der key = .ok der → C.p256.fromSec1Der der = .ok key

inductive ConfigError where
  | read (e : String)
  | parse (e : String)
  | crypto (message : String)
deriving DecidableEq, Repr

inductive CryptoError where
  | encodeError (message : String)
  | randomError (message : String)
deriving DecidableEq, Repr

inductive ApiClientError where
  | request (e : String)
  | api (message : String)
  | crypto (message : String)
deriving DecidableEq, Repr

-- What enroll_device boxes.
inductive EnrollError where
  | config (e : ConfigError)
  | crypto (e : CryptoError)
  | api (e : ApiClientError)
  | message (text : String)
deriving DecidableEq, Repr

structure Endpoint where
  v4 : Option String
  v6 : Option String
deriving DecidableEq, Repr

structure Peer where
  publicKey : String
  endpoint : Option Endpoint
deriving DecidableEq, Repr

structure Addresses where
  v4 : Option String
  v6 : Option String
deriving DecidableEq, Repr

structure InterfaceConfig where
  addresses : Option Addresses
deriving DecidableEq, Repr

structure AccountConfig where
  peers : Option (List Peer)
  interfaceConfig : Option InterfaceConfig
deriving DecidableEq, Repr

structure Account where
  license : Option String
deriving DecidableEq, Repr

structure AccountData where
  id : String
  account : Account
  config : AccountConfig
deriving DecidableEq, Repr

structure DeviceUpdate where
  key : String
  keyType : String
  tunType : String
  name : Option String
deriving DecidableEq, Repr

structure PatchRequest where
  url : String
  authorization : String
  body : DeviceUpdate
deriving DecidableEq, Repr

-- A body is read as text for an error and as AccountData otherwise.
structure HttpResponse where
  status : Nat
  statusText : String
  text : Except String String
  json : Except String AccountData

-- A request that fails may still have been taken by the server.
inductive ApiReply where
  | failed (e : String) (taken : Bool)
  | response (r : HttpResponse)

-- A write that fails leaves any text in the file, or none that can be read.
inductive WriteOutcome where
  | done
  | failed (e : String) (left : Except String String)

-- What reading the config file gives, and the key of the last update that the server accepted.
structure Enrolment where
  file : Except String String
  accepted : Option String

structure EnrollOutcomes (C : Crates) where
  random : C.p256.SigningKey
  reply : ApiReply
  write : WriteOutcome

structure EcKeyPair where
  privateKeyDer : List UInt8
  publicKeyDer : List UInt8
deriving DecidableEq, Repr

-- Unicode's White_Space.
def isWhiteSpace (c : Char) : Bool :=
  let n := c.toNat
  (0x9 ≤ n && n ≤ 0xd) || n == 0x20 || n == 0x85 || n == 0xa0 || n == 0x1680 ||
    (0x2000 ≤ n && n ≤ 0x200a) || n == 0x2028 || n == 0x2029 || n == 0x202f || n == 0x205f ||
    n == 0x3000

-- `trim().is_empty()`
def isBlank (text : String) : Bool := text.toList.all isWhiteSpace

def generateEcKeyPair (P : P256) (random : P.SigningKey) : Except CryptoError EcKeyPair := do
  let privateKeyDer ← (P.toSec1Der random).mapError .encodeError
  let publicKeyDer ← (P.toPublicKeyDer random).mapError .encodeError
  .ok { privateKeyDer, publicKeyDer }

namespace Config

variable (C : Crates)

def load (file : Except String String) : Except ConfigError Config := do
  let content ← file.mapError .read
  (C.json.fromStr content).mapError .parse

def save (cfg : Config) (write : WriteOutcome) (w : Enrolment) :
    Except ConfigError Unit × Enrolment :=
  match C.json.toStringPretty cfg with
  | .error e => (.error (.parse e), w)
  | .ok content =>
      match write with
      | .done => (.ok (), { w with file := .ok content })
      | .failed e left => (.error (.read e), { w with file := left })

def getPrivateKeyDer (cfg : Config) : Except ConfigError (List UInt8) :=
  (C.base64.decode cfg.privateKey).mapError
    (fun e => .parse ("failed to decode private key: " ++ e))

-- SEC1 first, and PKCS#8 as the fallback.
def signingKeyOfDer (der : List UInt8) : Except ConfigError C.p256.SigningKey :=
  match C.p256.fromSec1Der der with
  | .ok key => .ok key
  | .error _ => (C.p256.fromPkcs8Der der).mapError .crypto

def getSigningKey (cfg : Config) : Except ConfigError C.p256.SigningKey := do
  let der ← cfg.getPrivateKeyDer C
  signingKeyOfDer C der

end Config

namespace CloudflareClient

def apiUrl : String := "https://api.cloudflareclient.com"

def apiVersion : String := "v0a4471"

def keyTypeMasque : String := "secp256r1"

def tunTypeMasque : String := "masque"

def baseUrl : String := apiUrl ++ "/" ++ apiVersion

def isSuccess (r : HttpResponse) : Bool := 200 ≤ r.status && r.status < 300

def accepts : ApiReply → Bool
  | .failed _ taken => taken
  | .response r => isSuccess r

def enrollRequest (B : Base64Engine) (accountId accessToken : String) (pubKey : List UInt8)
    (deviceName : Option String) : PatchRequest where
  url := baseUrl ++ "/reg/" ++ accountId
  authorization := "Bearer " ++ accessToken
  body :=
    { key := B.encode pubKey, keyType := keyTypeMasque, tunType := tunTypeMasque,
      name := deviceName }

def receive : ApiReply → Except ApiClientError AccountData
  | .failed e _ => .error (.request e)
  | .response r =>
      if isSuccess r then r.json.mapError .request
      else .error (.api ("enroll key failed: " ++ r.statusText ++ " - " ++
        r.text.toOption.getD ""))

def enrollKey (B : Base64Engine) (accountId accessToken : String) (pubKey : List UInt8)
    (deviceName : Option String) (reply : ApiReply) (w : Enrolment) :
    Except ApiClientError AccountData × Enrolment :=
  let request := enrollRequest B accountId accessToken pubKey deviceName
  let w := if accepts reply then { w with accepted := some request.body.key } else w
  (receive reply, w)

end CloudflareClient

section enroll

variable (C : Crates)

def enrollKeyPair (cfg : Config) (regenKey : Bool) (random : C.p256.SigningKey) :
    Except EnrollError EcKeyPair :=
  if regenKey then (generateEcKeyPair C.p256 random).mapError .crypto
  else do
    let signingKey ← (cfg.getSigningKey C).mapError .config
    let publicKeyDer ← (C.p256.toPublicKeyDer signingKey).mapError
      (fun e => .message ("Failed to encode public key: " ++ e))
    let privateKeyDer ← (cfg.getPrivateKeyDer C).mapError .config
    .ok { privateKeyDer, publicKeyDer }

def updatedConfig (cfg : Config) (updated : AccountData) (privateKeyDer : List UInt8) :
    Except String Config :=
  let peer := updated.config.peers.bind List.head?
  let endpoint := peer.bind Peer.endpoint
  let addresses := updated.config.interfaceConfig.bind InterfaceConfig.addresses
  let license := updated.account.license.getD cfg.license
  let endpointV4 := (endpoint.bind Endpoint.v4).getD cfg.endpointV4
  let endpointV6 := (endpoint.bind Endpoint.v6).getD cfg.endpointV6
  if isBlank endpointV4 && isBlank endpointV6 then
    .error "No endpoint info in response or existing config"
  else
    let endpointPubKey := (peer.map Peer.publicKey).getD cfg.endpointPubKey
    if isBlank endpointPubKey then
      .error "No endpoint public key in response or existing config"
    else
      let ipv4 := (addresses.bind Addresses.v4).getD cfg.ipv4
      let ipv6 := (addresses.bind Addresses.v6).getD cfg.ipv6
      if isBlank ipv4 && isBlank ipv6 then
        .error "No interface addresses in response or existing config"
      else
        .ok {
          privateKey := C.base64.encode privateKeyDer
          endpointV4, endpointV6, endpointPubKey, license
          id := updated.id
          accessToken := cfg.accessToken
          ipv4, ipv6 }

def enrollDevice (deviceName : Option String) (regenKey : Bool) (o : EnrollOutcomes C)
    (w : Enrolment) : Except EnrollError Unit × Enrolment :=
  match Config.load C w.file with
  | .error e => (.error (.config e), w)
  | .ok cfg =>
      match enrollKeyPair C cfg regenKey o.random with
      | .error e => (.error e, w)
      | .ok pair =>
          match CloudflareClient.enrollKey C.base64 cfg.id cfg.accessToken pair.publicKeyDer
            deviceName o.reply w with
          | (.error e, w) => (.error (.api e), w)
          | (.ok updated, w) =>
              match updatedConfig C cfg updated pair.privateKeyDer with
              | .error text => (.error (.message text), w)
              | .ok newCfg =>
                  let (result, w) := newCfg.save C o.write w
                  (result.mapError .config, w)

end enroll

end Usque
