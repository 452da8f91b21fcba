import ForwardProxy.Config

/-!
This module contains the loading of a configuration from an environment. Each of the three texts has
two variables, and the second one is only asked for if the first one has no value.
-/

namespace ForwardProxy

abbrev Environment := Text → Option Text

namespace Environment

def ofList (entries : List (Text × Text)) : Environment := fun key =>
  entries.lookup key

def ofBytes (entries : List (Text × List UInt8)) : Environment := fun key =>
  (entries.lookup key).bind fun bytes => bytes.toByteArray.utf8Decode?.map Array.toList

/-- The first value that is not empty, and the keys that were asked for until it was found. -/
def firstValue (env : Environment) : List Text → Text × List Text
  | [] => ([], [])
  | key :: keys =>
    match env key with
    | some (c :: value) => (c :: value, [key])
    | _ =>
      let (value, asked) := firstValue env keys
      (value, key :: asked)

end Environment

namespace Config

def Field.variables : Field → List Text
  | .httpProxy => ["HTTP_PROXY".toList, "http_proxy".toList]
  | .httpsProxy => ["HTTPS_PROXY".toList, "https_proxy".toList]
  | .noProxy => ["NO_PROXY".toList, "no_proxy".toList]

structure Loaded where
  config : Config
  asked : List Text
  deriving DecidableEq, Repr

def load (env : Environment) : Loaded :=
  let (httpProxy, askedHttp) := env.firstValue (Field.variables .httpProxy)
  let (httpsProxy, askedHttps) := env.firstValue (Field.variables .httpsProxy)
  let (noProxy, askedNo) := env.firstValue (Field.variables .noProxy)
  ⟨⟨httpProxy, httpsProxy, noProxy⟩, askedHttp ++ askedHttps ++ askedNo⟩

end Config

end ForwardProxy
