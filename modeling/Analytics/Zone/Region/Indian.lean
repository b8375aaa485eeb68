import Analytics.Zone.Era
import Analytics.Zone.Season.Africa

/-!
Histories of the zones named Indian.
-/

namespace Analytics.Zone.Region.Indian

def chagos : List Era :=
  [ ⟨17380, .fixed 0, some ⟨1907, 1, .on 1, 0, .wall⟩⟩,
    ⟨18000, .fixed 0, some ⟨1996, 1, .on 1, 0, .wall⟩⟩,
    ⟨21600, .fixed 0, none⟩]

def maldives : List Era :=
  [ ⟨17640, .fixed 0, some ⟨1880, 1, .on 1, 0, .wall⟩⟩,
    ⟨17640, .fixed 0, some ⟨1960, 1, .on 1, 0, .wall⟩⟩,
    ⟨18000, .fixed 0, none⟩]

def mauritius : List Era :=
  [ ⟨13800, .fixed 0, some ⟨1907, 1, .on 1, 0, .wall⟩⟩,
    ⟨14400, .rules Season.mauritius, none⟩]

def all : List (String × List Era) :=
  [ ("Indian/Chagos", chagos),
    ("Indian/Maldives", maldives),
    ("Indian/Mauritius", mauritius)]

end Analytics.Zone.Region.Indian
