import ForwardProxy.Text

/-!
This module contains the configuration: three texts, which are not looked into before a request has
to be resolved. An empty text means that nothing is configured.
-/

namespace ForwardProxy

structure Config where
  httpProxy : Text := []
  httpsProxy : Text := []
  noProxy : Text := []
  deriving DecidableEq, Repr, Inhabited

namespace Config

inductive Field
  | httpProxy
  | httpsProxy
  | noProxy
  deriving DecidableEq, Repr

def Field.all : List Field :=
  [.httpProxy, .httpsProxy, .noProxy]

def get (c : Config) : Field → Text
  | .httpProxy => c.httpProxy
  | .httpsProxy => c.httpsProxy
  | .noProxy => c.noProxy

def put (c : Config) (field : Field) (value : Text) : Config :=
  match field with
  | .httpProxy => { c with httpProxy := value }
  | .httpsProxy => { c with httpsProxy := value }
  | .noProxy => { c with noProxy := value }

theorem get_put (c : Config) (f g : Field) (value : Text) :
    (c.put f value).get g = if f = g then value else c.get g := by
  cases f <;> cases g <;> rfl

theorem eq_of_get_eq {c d : Config} (h : ∀ f, c.get f = d.get f) : c = d := by
  obtain ⟨_, _, _⟩ := c
  obtain ⟨_, _, _⟩ := d
  have h1 := h .httpProxy
  have h2 := h .httpsProxy
  have h3 := h .noProxy
  simp only [get] at h1 h2 h3
  rw [h1, h2, h3]

def isEmpty (c : Config) : Bool :=
  c.httpProxy.isEmpty && c.httpsProxy.isEmpty

def candidate (c : Config) (scheme : Text) : Text :=
  if scheme = "https".toList ∧ ¬ c.httpsProxy.isEmpty then c.httpsProxy else c.httpProxy

inductive Setting
  | only (field : Field)
  | allProxies
  deriving DecidableEq, Repr

def Setting.fields : Setting → List Field
  | .only field => [field]
  | .allProxies => [.httpProxy, .httpsProxy]

def set (c : Config) (setting : Setting) (value : Text) : Config :=
  setting.fields.foldl (fun c field => c.put field value) c

theorem get_set (c : Config) (setting : Setting) (f : Field) (value : Text) :
    (c.set setting value).get f = if f ∈ setting.fields then value else c.get f := by
  cases setting with
  | only g => simp [set, Setting.fields, get_put, eq_comm]
  | allProxies => cases f <;> rfl

end Config

end ForwardProxy
