import TrafficTrace.Text.Blank
import TrafficTrace.Text.Quoted

/-! Credentials: an interface key, or the identifier of a key with its secret. -/
namespace TrafficTrace

/-! ### Base 64 with the standard alphabet and padding -/

namespace Text

def base64Alphabet : List Char :=
  "ABCDEFGHIJKLMNOPQRSTUVWXYZabcdefghijklmnopqrstuvwxyz0123456789+/".toList

/-- The character of a number below sixty-four. -/
def base64Digit (n : Nat) : Char := base64Alphabet.getD n '='

def base64 : List UInt8 → List Char
  | [] => []
  | [a] =>
    let n := a.toNat * 16
    [base64Digit (n / 64), base64Digit (n % 64), '=', '=']
  | [a, b] =>
    let n := (a.toNat * 256 + b.toNat) * 4
    [base64Digit (n / 4096), base64Digit (n / 64 % 64), base64Digit (n % 64), '=']
  | a :: b :: c :: rest =>
    let n := (a.toNat * 256 + b.toNat) * 256 + c.toNat
    [base64Digit (n / 262144), base64Digit (n / 4096 % 64), base64Digit (n / 64 % 64),
      base64Digit (n % 64)] ++ base64 rest

example : String.ofList (base64 [102, 111, 111, 98]) = "Zm9vYg==" := by decide +kernel

end Text

/-! ### Credentials -/

inductive Credentials where
  | apiKey (key : String) (environment : Option String)
  | basic (keyId secret : String)
deriving DecidableEq, Repr

/-- What is lacking for complete credentials. -/
inductive MissingCredential where
  | any
  | keySecret
  | keyId
deriving DecidableEq, Repr

namespace MissingCredential

def name : MissingCredential → String
  | any => "Any"
  | keySecret => "KeySecret"
  | keyId => "KeyId"

def message : MissingCredential → String
  | any => "No API credentials configured. Set TRACEHOUND_API_KEY, or both TRACEHOUND_API_KEY_ID " ++
      "and TRACEHOUND_API_KEY_SECRET, or add them to your config file"
  | keySecret => "Missing API key secret: an API key ID is configured but " ++
      "TRACEHOUND_API_KEY_SECRET (apiKeySecret) is not set"
  | keyId => "Missing API key ID: an API key secret is configured but " ++
      "TRACEHOUND_API_KEY_ID (apiKeyId) is not set"

end MissingCredential

/-- A value without the blanks around it; a blank one is none. -/
def presentValue (v : Option String) : Option String :=
  match v with
  | none => none
  | some s => let t := Text.trim s; if t.isEmpty then none else some t

namespace Credentials

/-- An interface key comes before a key identifier with its secret. -/
def resolve (apiKey environment keyId secret : Option String) :
    Except MissingCredential Credentials :=
  match presentValue apiKey with
  | some key => .ok (.apiKey key (presentValue environment))
  | none =>
    match presentValue keyId, presentValue secret with
    | some i, some s => .ok (.basic i s)
    | some _, none => .error .keySecret
    | none, some _ => .error .keyId
    | none, none => .error .any

def kind : Credentials → String
  | apiKey _ _ => "api-key"
  | basic _ _ => "key-id/secret"

def quotedOption (v : Option String) : String :=
  match v with
  | some s => "Some(" ++ Text.quote s ++ ")"
  | none => "None"

/-- A description without the secrets. -/
def describe : Credentials → String
  | apiKey _ environment =>
    "ApiKey \x7b key: \"<redacted>\", environment: " ++ quotedOption environment ++ " \x7d"
  | basic keyId _ =>
    "Basic \x7b key_id: " ++ Text.quote keyId ++ ", secret: \"<redacted>\" \x7d"

/-- The headers that a request carries. -/
def headers : Credentials → List (String × String)
  | apiKey key environment =>
    ("authorization", "Bearer " ++ key) ::
      match environment with
      | some e => [("x-tracehound-env", e)]
      | none => []
  | basic keyId secret =>
    [("authorization", "Basic " ++
      String.ofList (Text.base64 (keyId ++ ":" ++ secret).toUTF8.toList))]

end Credentials

end TrafficTrace
