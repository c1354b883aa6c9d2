import ProtoClass.Text.Case
import ProtoClass.Text.Cluster

/-!
# Camel case

A name is cut into words at underscores, hyphens and spaces, between a lower-case letter and a capital, between
letters and digits, and in front of the last capital of an acronym.  `camelCase` writes the first word in lower case
and every other word with a capital first letter.
-/

namespace ProtoClass.Text

/-- A cluster with two cases that is in upper case. -/
def isUpperCluster (cluster : List Char) : Bool :=
  upper cluster != lower cluster && cluster == upper cluster

/-- A cluster with two cases that is in lower case. -/
def isLowerCluster (cluster : List Char) : Bool :=
  upper cluster != lower cluster && cluster == lower cluster

def isDigitCluster (cluster : List Char) : Bool :=
  cluster.all Char.isDigit

/-- A cluster that only separates words. -/
def isWordSeparator (cluster : List Char) : Bool :=
  cluster == ['_'] || cluster == ['-'] || cluster == [' ']

/-- A word ends after `cluster` when the clusters `rest` follow it. -/
def endsWord (cluster : List Char) : List (List Char) → Bool
  | [] => false
  | next :: rest =>
    (isLowerCluster cluster && isUpperCluster next)
      || (isLowerCluster cluster && isDigitCluster next)
      || (isUpperCluster cluster && isDigitCluster next)
      || (isDigitCluster cluster && isLowerCluster next)
      || (isDigitCluster cluster && isUpperCluster next)
      || (isUpperCluster cluster && isUpperCluster next && rest.head?.any isLowerCluster)

/-- The words of a sequence of clusters, `word` being the part of the first one that has been read. -/
def wordsFrom (word : List Char) : List (List Char) → List (List Char)
  | [] => [word]
  | cluster :: rest =>
    if isWordSeparator cluster then word :: wordsFrom [] rest
    else if endsWord cluster rest then (word ++ cluster) :: wordsFrom [] rest
    else wordsFrom (word ++ cluster) rest

/-- The words of a name; neighbouring separators have an empty word between them. -/
def words (name : List Char) : List (List Char) :=
  wordsFrom [] (clusters name)

/-- A word with its first character in upper case and the others in lower case. -/
def capitalized : List Char → List Char
  | [] => []
  | c :: rest => upperChar c ++ lower rest

/-- A name in camel case. -/
def camelCase (name : String) : String :=
  match words name.toList with
  | [] => ""
  | first :: rest => String.ofList (lower first ++ rest.flatMap capitalized)

end ProtoClass.Text
