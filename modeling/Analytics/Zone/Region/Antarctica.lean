import Analytics.Zone.Era
import Analytics.Zone.Season.Oceania
import Analytics.Zone.Season.SouthAmerica

/-!
Histories of the zones named Antarctica.
-/

namespace Analytics.Zone.Region.Antarctica

def casey : List Era :=
  [ ⟨0, .fixed 0, some ⟨1969, 1, .on 1, 0, .wall⟩⟩,
    ⟨28800, .fixed 0, some ⟨2009, 10, .on 18, 7200, .wall⟩⟩,
    ⟨39600, .fixed 0, some ⟨2010, 3, .on 5, 7200, .wall⟩⟩,
    ⟨28800, .fixed 0, some ⟨2011, 10, .on 28, 7200, .wall⟩⟩,
    ⟨39600, .fixed 0, some ⟨2012, 2, .on 21, 61200, .universal⟩⟩,
    ⟨28800, .fixed 0, some ⟨2016, 10, .on 22, 0, .wall⟩⟩,
    ⟨39600, .fixed 0, some ⟨2018, 3, .on 11, 14400, .wall⟩⟩,
    ⟨28800, .fixed 0, some ⟨2018, 10, .on 7, 14400, .wall⟩⟩,
    ⟨39600, .fixed 0, some ⟨2019, 3, .on 17, 10800, .wall⟩⟩,
    ⟨28800, .fixed 0, some ⟨2019, 10, .on 4, 10800, .wall⟩⟩,
    ⟨39600, .fixed 0, some ⟨2020, 3, .on 8, 10800, .wall⟩⟩,
    ⟨28800, .fixed 0, some ⟨2020, 10, .on 4, 60, .wall⟩⟩,
    ⟨39600, .fixed 0, some ⟨2021, 3, .on 14, 0, .wall⟩⟩,
    ⟨28800, .fixed 0, some ⟨2021, 10, .on 3, 60, .wall⟩⟩,
    ⟨39600, .fixed 0, some ⟨2022, 3, .on 13, 0, .wall⟩⟩,
    ⟨28800, .fixed 0, some ⟨2022, 10, .on 2, 60, .wall⟩⟩,
    ⟨39600, .fixed 0, some ⟨2023, 3, .on 9, 10800, .wall⟩⟩,
    ⟨28800, .fixed 0, none⟩]

def davis : List Era :=
  [ ⟨0, .fixed 0, some ⟨1957, 1, .on 13, 0, .wall⟩⟩,
    ⟨25200, .fixed 0, some ⟨1964, 11, .on 1, 0, .wall⟩⟩,
    ⟨0, .fixed 0, some ⟨1969, 2, .on 1, 0, .wall⟩⟩,
    ⟨25200, .fixed 0, some ⟨2009, 10, .on 18, 7200, .wall⟩⟩,
    ⟨18000, .fixed 0, some ⟨2010, 3, .on 10, 72000, .universal⟩⟩,
    ⟨25200, .fixed 0, some ⟨2011, 10, .on 28, 7200, .wall⟩⟩,
    ⟨18000, .fixed 0, some ⟨2012, 2, .on 21, 72000, .universal⟩⟩,
    ⟨25200, .fixed 0, none⟩]

def macquarie : List Era :=
  [ ⟨0, .fixed 0, some ⟨1899, 11, .on 1, 0, .wall⟩⟩,
    ⟨36000, .fixed 0, some ⟨1916, 10, .on 1, 7200, .wall⟩⟩,
    ⟨36000, .fixed 3600, some ⟨1917, 2, .on 1, 0, .wall⟩⟩,
    ⟨36000, .rules Season.australia, some ⟨1919, 4, .on 1, 0, .standard⟩⟩,
    ⟨0, .fixed 0, some ⟨1948, 3, .on 25, 0, .wall⟩⟩,
    ⟨36000, .rules Season.australia, some ⟨1967, 1, .on 1, 0, .wall⟩⟩,
    ⟨36000, .rules Season.tasmania, some ⟨2010, 1, .on 1, 0, .wall⟩⟩,
    ⟨36000, .fixed 3600, some ⟨2011, 1, .on 1, 0, .wall⟩⟩,
    ⟨36000, .rules Season.tasmania, none⟩]

def mawson : List Era :=
  [ ⟨0, .fixed 0, some ⟨1954, 2, .on 13, 0, .wall⟩⟩,
    ⟨21600, .fixed 0, some ⟨2009, 10, .on 18, 7200, .wall⟩⟩,
    ⟨18000, .fixed 0, none⟩]

def palmer : List Era :=
  [ ⟨0, .fixed 0, some ⟨1965, 1, .on 1, 0, .wall⟩⟩,
    ⟨-14400, .rules Season.argentina, some ⟨1969, 10, .on 5, 0, .wall⟩⟩,
    ⟨-10800, .rules Season.argentina, some ⟨1982, 5, .on 1, 0, .wall⟩⟩,
    ⟨-14400, .rules Season.chile, some ⟨2016, 12, .on 4, 0, .wall⟩⟩,
    ⟨-10800, .fixed 0, none⟩]

def rothera : List Era :=
  [ ⟨0, .fixed 0, some ⟨1976, 12, .on 1, 0, .wall⟩⟩,
    ⟨-10800, .fixed 0, none⟩]

def troll : List Era :=
  [ ⟨0, .fixed 0, some ⟨2005, 2, .on 12, 0, .wall⟩⟩,
    ⟨0, .rules Season.troll, none⟩]

def vostok : List Era :=
  [ ⟨0, .fixed 0, some ⟨1957, 12, .on 16, 0, .wall⟩⟩,
    ⟨25200, .fixed 0, some ⟨1994, 2, .on 1, 0, .wall⟩⟩,
    ⟨0, .fixed 0, some ⟨1994, 11, .on 1, 0, .wall⟩⟩,
    ⟨25200, .fixed 0, some ⟨2023, 12, .on 18, 7200, .wall⟩⟩,
    ⟨18000, .fixed 0, none⟩]

def all : List (String × List Era) :=
  [ ("Antarctica/Casey", casey),
    ("Antarctica/Davis", davis),
    ("Antarctica/Macquarie", macquarie),
    ("Antarctica/Mawson", mawson),
    ("Antarctica/Palmer", palmer),
    ("Antarctica/Rothera", rothera),
    ("Antarctica/Troll", troll),
    ("Antarctica/Vostok", vostok)]

end Analytics.Zone.Region.Antarctica
