import Analytics.Zone.Era

/-!
Zones of one fixed offset. The sign in a name counts westward.
-/

namespace Analytics.Zone.Region.Etc

def gmt : List Era :=
  [ ⟨0, .fixed 0, none⟩]

def gmtPlus1 : List Era :=
  [ ⟨-3600, .fixed 0, none⟩]

def gmtPlus10 : List Era :=
  [ ⟨-36000, .fixed 0, none⟩]

def gmtPlus11 : List Era :=
  [ ⟨-39600, .fixed 0, none⟩]

def gmtPlus12 : List Era :=
  [ ⟨-43200, .fixed 0, none⟩]

def gmtPlus2 : List Era :=
  [ ⟨-7200, .fixed 0, none⟩]

def gmtPlus3 : List Era :=
  [ ⟨-10800, .fixed 0, none⟩]

def gmtPlus4 : List Era :=
  [ ⟨-14400, .fixed 0, none⟩]

def gmtPlus5 : List Era :=
  [ ⟨-18000, .fixed 0, none⟩]

def gmtPlus6 : List Era :=
  [ ⟨-21600, .fixed 0, none⟩]

def gmtPlus7 : List Era :=
  [ ⟨-25200, .fixed 0, none⟩]

def gmtPlus8 : List Era :=
  [ ⟨-28800, .fixed 0, none⟩]

def gmtPlus9 : List Era :=
  [ ⟨-32400, .fixed 0, none⟩]

def gmtMinus1 : List Era :=
  [ ⟨3600, .fixed 0, none⟩]

def gmtMinus10 : List Era :=
  [ ⟨36000, .fixed 0, none⟩]

def gmtMinus11 : List Era :=
  [ ⟨39600, .fixed 0, none⟩]

def gmtMinus12 : List Era :=
  [ ⟨43200, .fixed 0, none⟩]

def gmtMinus13 : List Era :=
  [ ⟨46800, .fixed 0, none⟩]

def gmtMinus14 : List Era :=
  [ ⟨50400, .fixed 0, none⟩]

def gmtMinus2 : List Era :=
  [ ⟨7200, .fixed 0, none⟩]

def gmtMinus3 : List Era :=
  [ ⟨10800, .fixed 0, none⟩]

def gmtMinus4 : List Era :=
  [ ⟨14400, .fixed 0, none⟩]

def gmtMinus5 : List Era :=
  [ ⟨18000, .fixed 0, none⟩]

def gmtMinus6 : List Era :=
  [ ⟨21600, .fixed 0, none⟩]

def gmtMinus7 : List Era :=
  [ ⟨25200, .fixed 0, none⟩]

def gmtMinus8 : List Era :=
  [ ⟨28800, .fixed 0, none⟩]

def gmtMinus9 : List Era :=
  [ ⟨32400, .fixed 0, none⟩]

def utc : List Era :=
  [ ⟨0, .fixed 0, none⟩]

def all : List (String × List Era) :=
  [ ("Etc/GMT", gmt),
    ("Etc/GMT+1", gmtPlus1),
    ("Etc/GMT+10", gmtPlus10),
    ("Etc/GMT+11", gmtPlus11),
    ("Etc/GMT+12", gmtPlus12),
    ("Etc/GMT+2", gmtPlus2),
    ("Etc/GMT+3", gmtPlus3),
    ("Etc/GMT+4", gmtPlus4),
    ("Etc/GMT+5", gmtPlus5),
    ("Etc/GMT+6", gmtPlus6),
    ("Etc/GMT+7", gmtPlus7),
    ("Etc/GMT+8", gmtPlus8),
    ("Etc/GMT+9", gmtPlus9),
    ("Etc/GMT-1", gmtMinus1),
    ("Etc/GMT-10", gmtMinus10),
    ("Etc/GMT-11", gmtMinus11),
    ("Etc/GMT-12", gmtMinus12),
    ("Etc/GMT-13", gmtMinus13),
    ("Etc/GMT-14", gmtMinus14),
    ("Etc/GMT-2", gmtMinus2),
    ("Etc/GMT-3", gmtMinus3),
    ("Etc/GMT-4", gmtMinus4),
    ("Etc/GMT-5", gmtMinus5),
    ("Etc/GMT-6", gmtMinus6),
    ("Etc/GMT-7", gmtMinus7),
    ("Etc/GMT-8", gmtMinus8),
    ("Etc/GMT-9", gmtMinus9),
    ("Etc/UTC", utc)]

end Analytics.Zone.Region.Etc
