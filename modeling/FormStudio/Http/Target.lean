import FormStudio.Http.Host
import FormStudio.Text.Percent

/-!
# Request targets

The target of a request is a path, and pairs of a query behind it; a scheme and a host may stand in
front. Several slashes at the start count as one, and a fragment is dropped. The last segment loses
its parameters under the schemes that have them.

Main statement: `Target.ofText_of_plain`, a text of plain characters is its own path.
-/
namespace FormStudio

/-- The parts of a target. -/
structure Target where
  path : String
  /-- Names and values of the query, in order; those without a value are left out. -/
  query : List (String × String)
  deriving DecidableEq, Repr

namespace Target

/-- One slash in the place of several at the start. -/
def singleSlash : List Char → List Char
  | '/' :: '/' :: rest => '/' :: rest.dropWhile (· == '/')
  | cs => cs

/-- Whether a character can stand in the scheme of an address. -/
def isSchemeChar (c : Char) : Bool := c.isAlphanum || c == '+' || c == '-' || c == '.'

/-- The schemes whose segments have parameters; without a scheme they have them too. -/
def schemesWithParameters : List String :=
  ["", "ftp", "hdl", "prospero", "http", "imap", "https", "shttp", "rtsp", "rtsps", "rtspu", "sip",
    "sips", "mms", "sftp", "tel"]

/-- The scheme of an address in small letters, and the rest. -/
def takeScheme (cs : List Char) : String × List Char :=
  match Pieces.cut ':' cs with
  | (c :: scheme, rest) =>
    if cs.contains ':' && c.isAlpha && scheme.all isSchemeChar then
      (String.ofList ((c :: scheme).map Char.toLower), rest)
    else ("", cs)
  | ([], _) => ("", cs)

/-- The host of an address, and the rest. -/
def takeHost : List Char → List Char × List Char
  | '/' :: '/' :: rest =>
    let inHost (c : Char) := c != '/' && c != '?' && c != '#'
    (rest.takeWhile inHost, rest.dropWhile inHost)
  | cs => ([], cs)

/-- A path without parameters of the last segment. -/
def withoutParameters (path : List Char) : List Char :=
  let last := (path.reverse.takeWhile (· != '/')).reverse
  path.take (path.length - last.length) ++ last.takeWhile (· != ';')

/-- A pair of a query; a name without a value is none. -/
def pair? (piece : List Char) : Option (String × String) :=
  match Pieces.cut '=' piece with
  | (_, []) => none
  | (name, value) =>
    some (Percent.decodeQuery (String.ofList name), Percent.decodeQuery (String.ofList value))

def pairs (query : List Char) : List (String × String) :=
  (Pieces.split '&' query).filterMap pair?

/-- Reads a target. Control characters at the start are dropped. -/
def ofText (s : String) : Except HostFault Target := do
  let address := (singleSlash s.toList).dropWhile fun c => c.toNat ≤ 0x20
  let (scheme, address) := takeScheme address
  let (host, address) := takeHost address
  Host.check host
  let (path, query) := Pieces.cut '?' (Pieces.cut '#' address).1
  let path := if schemesWithParameters.contains scheme then withoutParameters path else path
  pure ⟨String.ofList path, pairs query⟩

/-- The first value of a name in the query. -/
def value? (target : Target) (name : String) : Option String :=
  (target.query.find? fun entry => entry.1 == name).map (·.2)

/-- The rest of the path behind a beginning, decoded. -/
def segment? (target : Target) (beginning : String) : Option String :=
  if beginning.toList.isPrefixOf target.path.toList then
    some (Percent.decode (String.ofList (target.path.toList.drop beginning.length)))
  else none

theorem withoutParameters_of_not_mem {path : List Char} (h : ';' ∉ path) :
    withoutParameters path = path := by
  have hlast : ';' ∉ (path.reverse.takeWhile (· != '/')).reverse := fun hc =>
    h (List.mem_reverse.1 ((List.takeWhile_sublist _).subset (List.mem_reverse.1 hc)))
  have hpath : (path.reverse.dropWhile (· != '/')).reverse ++
      (path.reverse.takeWhile (· != '/')).reverse = path := by
    rw [← List.reverse_append, List.takeWhile_append_dropWhile, List.reverse_reverse]
  have hkept : (path.reverse.takeWhile (· != '/')).reverse.takeWhile (· != ';') =
      (path.reverse.takeWhile (· != '/')).reverse :=
    congrArg Prod.fst (Pieces.cut_of_not_mem hlast)
  unfold withoutParameters
  simp only [hkept]
  generalize (path.reverse.takeWhile (· != '/')).reverse = last at hpath
  generalize (path.reverse.dropWhile (· != '/')).reverse = before at hpath
  subst hpath
  rw [List.length_append, Nat.add_sub_cancel, List.take_left]

theorem ofText_of_plain {cs : List Char} (hslash : cs.head? ≠ some '/')
    (hplain : ∀ c ∈ cs, c ∉ [':', ';', '?', '#']) :
    ofText (String.ofList ('/' :: cs)) = .ok ⟨String.ofList ('/' :: cs), []⟩ := by
  have habsent (mark : Char) (hmark : mark ∈ [':', ';', '?', '#']) : mark ∉ '/' :: cs := by
    intro h
    rcases List.mem_cons.1 h with rfl | h
    · simp at hmark
    · exact hplain mark h hmark
  have hsingle : singleSlash ('/' :: cs) = '/' :: cs := by
    unfold singleSlash
    split
    · simp_all
    · rfl
  have hscheme : takeScheme ('/' :: cs) = ("", '/' :: cs) := by
    simp [takeScheme, Pieces.cut_of_not_mem (habsent ':' (by simp))]
  have hhost : takeHost ('/' :: cs) = ([], '/' :: cs) := by
    unfold takeHost
    split
    · simp_all
    · rfl
  have hcheck : Host.check [] = .ok () := Host.check_of_unbracketed (by simp) (by simp)
  have hdrop : ('/' :: cs).dropWhile (fun c => decide (c.toNat ≤ 0x20)) = '/' :: cs := by
    rw [List.dropWhile_cons]
    rfl
  unfold ofText
  simp only [String.toList_ofList, hsingle, hdrop, hscheme, hhost, hcheck,
    Pieces.cut_of_not_mem (habsent '#' (by simp)), Pieces.cut_of_not_mem (habsent '?' (by simp)),
    withoutParameters_of_not_mem (habsent ';' (by simp))]
  rfl

end Target

end FormStudio
