import EndpointCatalog.Text.CodeRanges
import EndpointCatalog.Text.CaseTable

namespace EndpointCatalog.Text

def upperMap : CodeMap := .ofText CaseTable.upper
def lowerMap : CodeMap := .ofText CaseTable.lower
def titleMap : CodeMap := .ofText CaseTable.title
def casedSet : CodeRanges := .ofText CaseTable.cased
def ignorableSet : CodeRanges := .ofText CaseTable.ignorable

def upperChar (c : Char) : List Char :=
  if c.toNat < 128 then [c.toUpper] else (upperMap.find? c).getD [c]

def titleChar (c : Char) : List Char :=
  if c.toNat < 128 then [c.toUpper] else (titleMap.find? c).getD (upperChar c)

def lowerChar (c : Char) : List Char :=
  if c.toNat < 128 then [c.toLower] else (lowerMap.find? c).getD [c]

def upper (s : String) : String := String.ofList (s.toList.flatMap upperChar)

def startsCased (context : List Char) : Bool :=
  match context.dropWhile ignorableSet.contains with
  | [] => false
  | c :: _ => casedSet.contains c

def capitalSigma : Char := Char.ofNat 0x3a3

-- A capital sigma is final when a cased character precedes it and none follows it; `before` is
-- reversed.
def lowerAfter (before : List Char) : List Char → List Char
  | [] => []
  | c :: rest =>
    let image :=
      if c = capitalSigma then
        [Char.ofNat (if startsCased before && !startsCased rest then 0x3c2 else 0x3c3)]
      else lowerChar c
    image ++ lowerAfter (c :: before) rest

def capitalize (s : String) : String :=
  match s.toList with
  | [] => ""
  | c :: rest => String.ofList (titleChar c ++ lowerAfter [c] rest)

end EndpointCatalog.Text
