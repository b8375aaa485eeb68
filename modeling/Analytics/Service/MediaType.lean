/-!
Media types of documents: a kind and a form with a slash between them, and parameters behind
semicolons. A form may end in a suffix behind a plus sign, which names what the form is built on.
-/

namespace Analytics.MediaType

def isToken (c : Char) : Bool :=
  c.isAlphanum || ['!', '#', '$', '&', '-', '^', '_', '.', '+', '%', '*', '\x27', '\x60', '|',
    '~'].contains c

inductive Place where
  | ahead
  | name
  | valueStart
  | value
  | quoteStart
  | quoted
  | behind
  deriving DecidableEq, Repr

namespace Place

def isQuotable (c : Char) : Bool := 31 < c.toNat && c.toNat ≠ 127

/-- The place behind one more character, if it may stand there. -/
def next (place : Place) (c : Char) : Option Place :=
  match place with
  | ahead => if c = ' ' then some ahead else if isToken c then some name else none
  | name => if c = '=' then some valueStart else if isToken c then some name else none
  | valueStart => if c = '"' then some quoteStart else if isToken c then some value else none
  | value => if c = ';' then some ahead else if isToken c then some value else none
  | quoteStart => if isQuotable c then some quoted else none
  | quoted => if c = '"' then some behind else if isQuotable c then some quoted else none
  | behind => if c = ';' then some ahead else if c = ' ' then some behind else none

def mayEnd : Place → Bool
  | ahead | valueStart | value | behind => true
  | name | quoteStart | quoted => false

end Place

def areParameters (cs : List Char) : Bool :=
  match cs.foldlM Place.next .ahead with
  | some place => place.mayEnd
  | none => false

def splitSuffix (form : List Char) : List Char × Option (List Char) :=
  let suffix := (form.reverse.takeWhile (· ≠ '+')).reverse
  if suffix.length + 1 < form.length then
    (form.take (form.length - suffix.length - 1), some suffix)
  else (form, none)

def namesJson (kind form : List Char) : Bool :=
  let (form, suffix) := splitSuffix form
  kind = "application".toList && (form = "json".toList || suffix = some "json".toList)

/-- Whether a text is the media type of JSON documents. Names count without regard to case. -/
def isJson (text : String) : Bool :=
  let cs := text.toList
  let kind := cs.takeWhile isToken
  match cs.dropWhile isToken with
  | '/' :: rest =>
    let form := rest.takeWhile isToken
    let parametersAreGood := match rest.dropWhile isToken with
      | [] => true
      | ';' :: parameters => areParameters parameters
      | _ => false
    !form.isEmpty && parametersAreGood &&
      namesJson (kind.map Char.toLower) (form.map Char.toLower)
  | _ => false

end Analytics.MediaType
