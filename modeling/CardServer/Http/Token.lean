/-! # Tokens

The characters that method names and header names are made of, and the methods and header names
themselves.
-/

namespace CardServer.Http

/-- The punctuation that may stand in a token. -/
def tokenPunctuation : List Char := "!#$%&'*+-.^_`|~".toList

/-- Whether a character may stand in a token. -/
def isTokenChar (c : Char) : Bool := c.isAlphanum || tokenPunctuation.contains c

/-- Whether a text is a token: not empty and made of token characters. -/
def isToken (text : String) : Bool := !text.toList.isEmpty && text.toList.all isTokenChar

/-- A request method: any token, upper and lower case told apart. -/
structure Method where
  name : String
  isToken : isToken name = true
  deriving DecidableEq

namespace Method

/-- The method `GET`. -/
def get : Method := ⟨"GET", by decide⟩

/-- The method `HEAD`. -/
def head : Method := ⟨"HEAD", by decide⟩

/-- The method `POST`. -/
def post : Method := ⟨"POST", by decide⟩

/-- The method that a text names, if it is a token. -/
def ofText? (text : String) : Option Method :=
  if h : Http.isToken text = true then some ⟨text, h⟩ else none

theorem name_injective : Function.Injective name := by
  rintro ⟨name, _⟩ ⟨other, _⟩ h
  obtain rfl : name = other := h
  rfl

/-- The method that a text names has the text as its name. -/
theorem name_of_ofText? {text : String} {method : Method} (h : ofText? text = some method) :
    method.name = text := by
  unfold ofText? at h
  split at h
  · obtain rfl := Option.some.inj h
    rfl
  · nomatch h

end Method

end CardServer.Http
