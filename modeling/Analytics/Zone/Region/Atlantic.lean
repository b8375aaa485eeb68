import Analytics.Zone.Era
import Analytics.Zone.Season.Europe
import Analytics.Zone.Season.NorthAmerica
import Analytics.Zone.Season.SouthAmerica

/-!
Histories of the zones named Atlantic.
-/

namespace Analytics.Zone.Region.Atlantic

def azores : List Era :=
  [ ⟨-6160, .fixed 0, some ⟨1884, 1, .on 1, 0, .wall⟩⟩,
    ⟨-6872, .fixed 0, some ⟨1912, 1, .on 1, 7200, .universal⟩⟩,
    ⟨-7200, .rules Season.portugal, some ⟨1942, 4, .on 25, 79200, .standard⟩⟩,
    ⟨-7200, .rules Season.portugal, some ⟨1942, 8, .on 15, 79200, .standard⟩⟩,
    ⟨-7200, .rules Season.portugal, some ⟨1943, 4, .on 17, 79200, .standard⟩⟩,
    ⟨-7200, .rules Season.portugal, some ⟨1943, 8, .on 28, 79200, .standard⟩⟩,
    ⟨-7200, .rules Season.portugal, some ⟨1944, 4, .on 22, 79200, .standard⟩⟩,
    ⟨-7200, .rules Season.portugal, some ⟨1944, 8, .on 26, 79200, .standard⟩⟩,
    ⟨-7200, .rules Season.portugal, some ⟨1945, 4, .on 21, 79200, .standard⟩⟩,
    ⟨-7200, .rules Season.portugal, some ⟨1945, 8, .on 25, 79200, .standard⟩⟩,
    ⟨-7200, .rules Season.portugal, some ⟨1966, 10, .on 2, 7200, .standard⟩⟩,
    ⟨-3600, .fixed 0, some ⟨1982, 3, .on 28, 0, .standard⟩⟩,
    ⟨-3600, .rules Season.portugal, some ⟨1986, 1, .on 1, 0, .wall⟩⟩,
    ⟨-3600, .rules Season.europeanUnion, some ⟨1992, 12, .on 27, 3600, .standard⟩⟩,
    ⟨0, .rules Season.europeanUnion, some ⟨1993, 6, .on 17, 3600, .universal⟩⟩,
    ⟨-3600, .rules Season.europeanUnion, none⟩]

def bermuda : List Era :=
  [ ⟨-15558, .fixed 0, some ⟨1890, 1, .on 1, 0, .wall⟩⟩,
    ⟨-15558, .rules Season.bermuda, some ⟨1930, 1, .on 1, 7200, .wall⟩⟩,
    ⟨-14400, .rules Season.bermuda, some ⟨1974, 4, .on 28, 7200, .wall⟩⟩,
    ⟨-14400, .rules Season.canada, some ⟨1976, 1, .on 1, 0, .wall⟩⟩,
    ⟨-14400, .rules Season.unitedStates, none⟩]

def canary : List Era :=
  [ ⟨-3696, .fixed 0, some ⟨1922, 3, .on 1, 0, .wall⟩⟩,
    ⟨-3600, .fixed 0, some ⟨1946, 9, .on 30, 3600, .wall⟩⟩,
    ⟨0, .fixed 0, some ⟨1980, 4, .on 6, 0, .standard⟩⟩,
    ⟨0, .fixed 3600, some ⟨1980, 9, .on 28, 3600, .universal⟩⟩,
    ⟨0, .rules Season.europeanUnion, none⟩]

def capeVerde : List Era :=
  [ ⟨-5644, .fixed 0, some ⟨1912, 1, .on 1, 7200, .universal⟩⟩,
    ⟨-7200, .fixed 0, some ⟨1942, 9, .on 1, 0, .wall⟩⟩,
    ⟨-7200, .fixed 3600, some ⟨1945, 10, .on 15, 0, .wall⟩⟩,
    ⟨-7200, .fixed 0, some ⟨1975, 11, .on 25, 7200, .wall⟩⟩,
    ⟨-3600, .fixed 0, none⟩]

def faroe : List Era :=
  [ ⟨-1624, .fixed 0, some ⟨1908, 1, .on 11, 0, .wall⟩⟩,
    ⟨0, .fixed 0, some ⟨1981, 1, .on 1, 0, .wall⟩⟩,
    ⟨0, .rules Season.europeanUnion, none⟩]

def madeira : List Era :=
  [ ⟨-4056, .fixed 0, some ⟨1884, 1, .on 1, 0, .wall⟩⟩,
    ⟨-4056, .fixed 0, some ⟨1912, 1, .on 1, 3600, .universal⟩⟩,
    ⟨-3600, .rules Season.portugal, some ⟨1942, 4, .on 25, 79200, .standard⟩⟩,
    ⟨-3600, .rules Season.portugal, some ⟨1942, 8, .on 15, 79200, .standard⟩⟩,
    ⟨-3600, .rules Season.portugal, some ⟨1943, 4, .on 17, 79200, .standard⟩⟩,
    ⟨-3600, .rules Season.portugal, some ⟨1943, 8, .on 28, 79200, .standard⟩⟩,
    ⟨-3600, .rules Season.portugal, some ⟨1944, 4, .on 22, 79200, .standard⟩⟩,
    ⟨-3600, .rules Season.portugal, some ⟨1944, 8, .on 26, 79200, .standard⟩⟩,
    ⟨-3600, .rules Season.portugal, some ⟨1945, 4, .on 21, 79200, .standard⟩⟩,
    ⟨-3600, .rules Season.portugal, some ⟨1945, 8, .on 25, 79200, .standard⟩⟩,
    ⟨-3600, .rules Season.portugal, some ⟨1966, 10, .on 2, 7200, .standard⟩⟩,
    ⟨0, .fixed 0, some ⟨1982, 4, .on 4, 0, .wall⟩⟩,
    ⟨0, .rules Season.portugal, some ⟨1986, 7, .on 31, 0, .wall⟩⟩,
    ⟨0, .rules Season.europeanUnion, none⟩]

def southGeorgia : List Era :=
  [ ⟨-8768, .fixed 0, some ⟨1890, 1, .on 1, 0, .wall⟩⟩,
    ⟨-7200, .fixed 0, none⟩]

def stanley : List Era :=
  [ ⟨-13884, .fixed 0, some ⟨1890, 1, .on 1, 0, .wall⟩⟩,
    ⟨-13884, .fixed 0, some ⟨1912, 3, .on 12, 0, .wall⟩⟩,
    ⟨-14400, .rules Season.falklands, some ⟨1983, 5, .on 1, 0, .wall⟩⟩,
    ⟨-10800, .rules Season.falklands, some ⟨1985, 9, .on 15, 0, .wall⟩⟩,
    ⟨-14400, .rules Season.falklands, some ⟨2010, 9, .on 5, 7200, .wall⟩⟩,
    ⟨-10800, .fixed 0, none⟩]

def all : List (String × List Era) :=
  [ ("Atlantic/Azores", azores),
    ("Atlantic/Bermuda", bermuda),
    ("Atlantic/Canary", canary),
    ("Atlantic/Cape_Verde", capeVerde),
    ("Atlantic/Faroe", faroe),
    ("Atlantic/Madeira", madeira),
    ("Atlantic/South_Georgia", southGeorgia),
    ("Atlantic/Stanley", stanley)]

end Analytics.Zone.Region.Atlantic
