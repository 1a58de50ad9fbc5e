import Soql.Request.Field

/-!
This module contains the settings of requests: the connection, and what a single request changes.
-/

namespace Soql

def isApiVersion (s : String) : Bool :=
  match s.toList with
  | 'v' :: _ :: _ => true
  | _ => false

def isHttpUrl (s : String) : Bool :=
  "https://".toList.isPrefixOf s.toList || "http://".toList.isPrefixOf s.toList

structure ApiVersion where
  text : String
  valid : isApiVersion text = true
  deriving DecidableEq

structure InstanceUrl where
  text : String
  valid : isHttpUrl text = true
  deriving DecidableEq

structure ClientConfig where
  instanceUrl : InstanceUrl
  apiVersion : ApiVersion
  deriving DecidableEq

structure RequestOptions where
  /-- In place of the version of the connection. -/
  apiVersion : Option ApiVersion
  /-- The blanks of the template are sent as they are. -/
  skipTrim : Bool
  deriving DecidableEq

namespace ApiVersion

def read (v : Value) : Except FieldFault ApiVersion := do
  let s ← v.readText
  if h : isApiVersion s = true then return ⟨s, h⟩ else throw (.badVersion s)

end ApiVersion

namespace InstanceUrl

def read (v : Value) : Except FieldFault InstanceUrl := do
  let s ← v.readText
  if h : isHttpUrl s = true then return ⟨s, h⟩ else throw (.badUrl s)

end InstanceUrl

namespace ClientConfig

def ofFields (fields : Fields) : Except InvalidFields ClientConfig :=
  let url := fields.required "instance_url" InstanceUrl.read
  let version := fields.required "api_version" ApiVersion.read
  let extras := fields.unexpected ["instance_url", "api_version"]
  match url, version, extras with
  | .ok url, .ok version, [] => .ok ⟨url, version⟩
  | _, _, _ =>
    .error ⟨"ClientConfig",
      Fields.faultOf "instance_url" url ++ Fields.faultOf "api_version" version ++ extras⟩

end ClientConfig

namespace RequestOptions

def default : RequestOptions :=
  ⟨none, false⟩

def readVersion? : Value → Except FieldFault (Option ApiVersion)
  | .null => .ok none
  | v => (ApiVersion.read v).map some

def ofFields (fields : Fields) : Except InvalidFields RequestOptions :=
  let version := fields.optional "api_version" none readVersion?
  let skipTrim := fields.optional "skip_trim" false Value.readBool
  let extras := fields.unexpected ["api_version", "skip_trim"]
  match version, skipTrim, extras with
  | .ok version, .ok skipTrim, [] => .ok ⟨version, skipTrim⟩
  | _, _, _ =>
    .error ⟨"RequestOptions",
      Fields.faultOf "api_version" version ++ Fields.faultOf "skip_trim" skipTrim ++ extras⟩

end RequestOptions
end Soql
