import Analytics.Zone.Season

/-!
Seasonal clock changes of Australia, the Pacific and the Antarctic.
-/

namespace Analytics.Zone.Season

def troll : List SeasonRule :=
  [ ⟨2005, 9999, 3, .last 0, 3600, .universal, 7200⟩,
    ⟨2004, 9999, 10, .last 0, 3600, .universal, 0⟩]

def australia : List SeasonRule :=
  [ ⟨1917, 1917, 1, .on 1, 7200, .standard, 3600⟩,
    ⟨1917, 1917, 3, .last 0, 7200, .standard, 0⟩,
    ⟨1942, 1942, 1, .on 1, 7200, .standard, 3600⟩,
    ⟨1942, 1942, 3, .last 0, 7200, .standard, 0⟩,
    ⟨1942, 1942, 9, .on 27, 7200, .standard, 3600⟩,
    ⟨1943, 1944, 3, .last 0, 7200, .standard, 0⟩,
    ⟨1943, 1943, 10, .on 3, 7200, .standard, 3600⟩]

def westernAustralia : List SeasonRule :=
  [ ⟨1974, 1974, 10, .last 0, 7200, .standard, 3600⟩,
    ⟨1975, 1975, 3, .onOrAfter 0 1, 7200, .standard, 0⟩,
    ⟨1983, 1983, 10, .last 0, 7200, .standard, 3600⟩,
    ⟨1984, 1984, 3, .onOrAfter 0 1, 7200, .standard, 0⟩,
    ⟨1991, 1991, 11, .on 17, 7200, .standard, 3600⟩,
    ⟨1992, 1992, 3, .onOrAfter 0 1, 7200, .standard, 0⟩,
    ⟨2006, 2006, 12, .on 3, 7200, .standard, 3600⟩,
    ⟨2007, 2009, 3, .last 0, 7200, .standard, 0⟩,
    ⟨2007, 2008, 10, .last 0, 7200, .standard, 3600⟩]

def queensland : List SeasonRule :=
  [ ⟨1971, 1971, 10, .last 0, 7200, .standard, 3600⟩,
    ⟨1972, 1972, 2, .last 0, 7200, .standard, 0⟩,
    ⟨1989, 1991, 10, .last 0, 7200, .standard, 3600⟩,
    ⟨1990, 1992, 3, .onOrAfter 0 1, 7200, .standard, 0⟩]

def holidayIslands : List SeasonRule :=
  [ ⟨1992, 1993, 10, .last 0, 7200, .standard, 3600⟩,
    ⟨1993, 1994, 3, .onOrAfter 0 1, 7200, .standard, 0⟩]

def southAustralia : List SeasonRule :=
  [ ⟨1971, 1985, 10, .last 0, 7200, .standard, 3600⟩,
    ⟨1986, 1986, 10, .on 19, 7200, .standard, 3600⟩,
    ⟨1987, 2007, 10, .last 0, 7200, .standard, 3600⟩,
    ⟨1972, 1972, 2, .on 27, 7200, .standard, 0⟩,
    ⟨1973, 1985, 3, .onOrAfter 0 1, 7200, .standard, 0⟩,
    ⟨1986, 1990, 3, .onOrAfter 0 15, 7200, .standard, 0⟩,
    ⟨1991, 1991, 3, .on 3, 7200, .standard, 0⟩,
    ⟨1992, 1992, 3, .on 22, 7200, .standard, 0⟩,
    ⟨1993, 1993, 3, .on 7, 7200, .standard, 0⟩,
    ⟨1994, 1994, 3, .on 20, 7200, .standard, 0⟩,
    ⟨1995, 2005, 3, .last 0, 7200, .standard, 0⟩,
    ⟨2006, 2006, 4, .on 2, 7200, .standard, 0⟩,
    ⟨2007, 2007, 3, .last 0, 7200, .standard, 0⟩,
    ⟨2008, 9999, 4, .onOrAfter 0 1, 7200, .standard, 0⟩,
    ⟨2008, 9999, 10, .onOrAfter 0 1, 7200, .standard, 3600⟩]

def tasmania : List SeasonRule :=
  [ ⟨1916, 1916, 10, .onOrAfter 0 1, 7200, .standard, 3600⟩,
    ⟨1917, 1917, 3, .last 0, 7200, .standard, 0⟩,
    ⟨1917, 1918, 10, .onOrAfter 0 22, 7200, .standard, 3600⟩,
    ⟨1918, 1919, 3, .onOrAfter 0 1, 7200, .standard, 0⟩,
    ⟨1967, 1967, 10, .onOrAfter 0 1, 7200, .standard, 3600⟩,
    ⟨1968, 1968, 3, .onOrAfter 0 29, 7200, .standard, 0⟩,
    ⟨1968, 1985, 10, .last 0, 7200, .standard, 3600⟩,
    ⟨1969, 1971, 3, .onOrAfter 0 8, 7200, .standard, 0⟩,
    ⟨1972, 1972, 2, .last 0, 7200, .standard, 0⟩,
    ⟨1973, 1981, 3, .onOrAfter 0 1, 7200, .standard, 0⟩,
    ⟨1982, 1983, 3, .last 0, 7200, .standard, 0⟩,
    ⟨1984, 1986, 3, .onOrAfter 0 1, 7200, .standard, 0⟩,
    ⟨1986, 1986, 10, .onOrAfter 0 15, 7200, .standard, 3600⟩,
    ⟨1987, 1990, 3, .onOrAfter 0 15, 7200, .standard, 0⟩,
    ⟨1987, 1987, 10, .onOrAfter 0 22, 7200, .standard, 3600⟩,
    ⟨1988, 1990, 10, .last 0, 7200, .standard, 3600⟩,
    ⟨1991, 1999, 10, .onOrAfter 0 1, 7200, .standard, 3600⟩,
    ⟨1991, 2005, 3, .last 0, 7200, .standard, 0⟩,
    ⟨2000, 2000, 8, .last 0, 7200, .standard, 3600⟩,
    ⟨2001, 9999, 10, .onOrAfter 0 1, 7200, .standard, 3600⟩,
    ⟨2006, 2006, 4, .onOrAfter 0 1, 7200, .standard, 0⟩,
    ⟨2007, 2007, 3, .last 0, 7200, .standard, 0⟩,
    ⟨2008, 9999, 4, .onOrAfter 0 1, 7200, .standard, 0⟩]

def victoria : List SeasonRule :=
  [ ⟨1971, 1985, 10, .last 0, 7200, .standard, 3600⟩,
    ⟨1972, 1972, 2, .last 0, 7200, .standard, 0⟩,
    ⟨1973, 1985, 3, .onOrAfter 0 1, 7200, .standard, 0⟩,
    ⟨1986, 1990, 3, .onOrAfter 0 15, 7200, .standard, 0⟩,
    ⟨1986, 1987, 10, .onOrAfter 0 15, 7200, .standard, 3600⟩,
    ⟨1988, 1999, 10, .last 0, 7200, .standard, 3600⟩,
    ⟨1991, 1994, 3, .onOrAfter 0 1, 7200, .standard, 0⟩,
    ⟨1995, 2005, 3, .last 0, 7200, .standard, 0⟩,
    ⟨2000, 2000, 8, .last 0, 7200, .standard, 3600⟩,
    ⟨2001, 2007, 10, .last 0, 7200, .standard, 3600⟩,
    ⟨2006, 2006, 4, .onOrAfter 0 1, 7200, .standard, 0⟩,
    ⟨2007, 2007, 3, .last 0, 7200, .standard, 0⟩,
    ⟨2008, 9999, 4, .onOrAfter 0 1, 7200, .standard, 0⟩,
    ⟨2008, 9999, 10, .onOrAfter 0 1, 7200, .standard, 3600⟩]

def newSouthWales : List SeasonRule :=
  [ ⟨1971, 1985, 10, .last 0, 7200, .standard, 3600⟩,
    ⟨1972, 1972, 2, .on 27, 7200, .standard, 0⟩,
    ⟨1973, 1981, 3, .onOrAfter 0 1, 7200, .standard, 0⟩,
    ⟨1982, 1982, 4, .onOrAfter 0 1, 7200, .standard, 0⟩,
    ⟨1983, 1985, 3, .onOrAfter 0 1, 7200, .standard, 0⟩,
    ⟨1986, 1989, 3, .onOrAfter 0 15, 7200, .standard, 0⟩,
    ⟨1986, 1986, 10, .on 19, 7200, .standard, 3600⟩,
    ⟨1987, 1999, 10, .last 0, 7200, .standard, 3600⟩,
    ⟨1990, 1995, 3, .onOrAfter 0 1, 7200, .standard, 0⟩,
    ⟨1996, 2005, 3, .last 0, 7200, .standard, 0⟩,
    ⟨2000, 2000, 8, .last 0, 7200, .standard, 3600⟩,
    ⟨2001, 2007, 10, .last 0, 7200, .standard, 3600⟩,
    ⟨2006, 2006, 4, .onOrAfter 0 1, 7200, .standard, 0⟩,
    ⟨2007, 2007, 3, .last 0, 7200, .standard, 0⟩,
    ⟨2008, 9999, 4, .onOrAfter 0 1, 7200, .standard, 0⟩,
    ⟨2008, 9999, 10, .onOrAfter 0 1, 7200, .standard, 3600⟩]

def lordHowe : List SeasonRule :=
  [ ⟨1981, 1984, 10, .last 0, 7200, .wall, 3600⟩,
    ⟨1982, 1985, 3, .onOrAfter 0 1, 7200, .wall, 0⟩,
    ⟨1985, 1985, 10, .last 0, 7200, .wall, 1800⟩,
    ⟨1986, 1989, 3, .onOrAfter 0 15, 7200, .wall, 0⟩,
    ⟨1986, 1986, 10, .on 19, 7200, .wall, 1800⟩,
    ⟨1987, 1999, 10, .last 0, 7200, .wall, 1800⟩,
    ⟨1990, 1995, 3, .onOrAfter 0 1, 7200, .wall, 0⟩,
    ⟨1996, 2005, 3, .last 0, 7200, .wall, 0⟩,
    ⟨2000, 2000, 8, .last 0, 7200, .wall, 1800⟩,
    ⟨2001, 2007, 10, .last 0, 7200, .wall, 1800⟩,
    ⟨2006, 2006, 4, .onOrAfter 0 1, 7200, .wall, 0⟩,
    ⟨2007, 2007, 3, .last 0, 7200, .wall, 0⟩,
    ⟨2008, 9999, 4, .onOrAfter 0 1, 7200, .wall, 0⟩,
    ⟨2008, 9999, 10, .onOrAfter 0 1, 7200, .wall, 1800⟩]

def fiji : List SeasonRule :=
  [ ⟨1998, 1999, 11, .onOrAfter 0 1, 7200, .wall, 3600⟩,
    ⟨1999, 2000, 2, .last 0, 10800, .wall, 0⟩,
    ⟨2009, 2009, 11, .on 29, 7200, .wall, 3600⟩,
    ⟨2010, 2010, 3, .last 0, 10800, .wall, 0⟩,
    ⟨2010, 2013, 10, .onOrAfter 0 21, 7200, .wall, 3600⟩,
    ⟨2011, 2011, 3, .onOrAfter 0 1, 10800, .wall, 0⟩,
    ⟨2012, 2013, 1, .onOrAfter 0 18, 10800, .wall, 0⟩,
    ⟨2014, 2014, 1, .onOrAfter 0 18, 7200, .wall, 0⟩,
    ⟨2014, 2018, 11, .onOrAfter 0 1, 7200, .wall, 3600⟩,
    ⟨2015, 2021, 1, .onOrAfter 0 12, 10800, .wall, 0⟩,
    ⟨2019, 2019, 11, .onOrAfter 0 8, 7200, .wall, 3600⟩,
    ⟨2020, 2020, 12, .on 20, 7200, .wall, 3600⟩]

def guam : List SeasonRule :=
  [ ⟨1959, 1959, 6, .on 27, 7200, .wall, 3600⟩,
    ⟨1961, 1961, 1, .on 29, 7200, .wall, 0⟩,
    ⟨1967, 1967, 9, .on 1, 7200, .wall, 3600⟩,
    ⟨1969, 1969, 1, .on 26, 60, .wall, 0⟩,
    ⟨1969, 1969, 6, .on 22, 7200, .wall, 3600⟩,
    ⟨1969, 1969, 8, .on 31, 7200, .wall, 0⟩,
    ⟨1970, 1971, 4, .last 0, 7200, .wall, 3600⟩,
    ⟨1970, 1971, 9, .onOrAfter 0 1, 7200, .wall, 0⟩,
    ⟨1973, 1973, 12, .on 16, 7200, .wall, 3600⟩,
    ⟨1974, 1974, 2, .on 24, 7200, .wall, 0⟩,
    ⟨1976, 1976, 5, .on 26, 7200, .wall, 3600⟩,
    ⟨1976, 1976, 8, .on 22, 7260, .wall, 0⟩,
    ⟨1977, 1977, 4, .on 24, 7200, .wall, 3600⟩,
    ⟨1977, 1977, 8, .on 28, 7200, .wall, 0⟩]

def newCaledonia : List SeasonRule :=
  [ ⟨1977, 1978, 12, .onOrAfter 0 1, 0, .wall, 3600⟩,
    ⟨1978, 1979, 2, .on 27, 0, .wall, 0⟩,
    ⟨1996, 1996, 12, .on 1, 7200, .standard, 3600⟩,
    ⟨1997, 1997, 3, .on 2, 7200, .standard, 0⟩]

def newZealand : List SeasonRule :=
  [ ⟨1927, 1927, 11, .on 6, 7200, .wall, 3600⟩,
    ⟨1928, 1928, 3, .on 4, 7200, .wall, 0⟩,
    ⟨1928, 1933, 10, .onOrAfter 0 8, 7200, .wall, 1800⟩,
    ⟨1929, 1933, 3, .onOrAfter 0 15, 7200, .wall, 0⟩,
    ⟨1934, 1940, 4, .last 0, 7200, .wall, 0⟩,
    ⟨1934, 1940, 9, .last 0, 7200, .wall, 1800⟩,
    ⟨1946, 1946, 1, .on 1, 0, .wall, 0⟩,
    ⟨1974, 1974, 11, .onOrAfter 0 1, 7200, .standard, 3600⟩,
    ⟨1975, 1975, 2, .last 0, 7200, .standard, 0⟩,
    ⟨1975, 1988, 10, .last 0, 7200, .standard, 3600⟩,
    ⟨1976, 1989, 3, .onOrAfter 0 1, 7200, .standard, 0⟩,
    ⟨1989, 1989, 10, .onOrAfter 0 8, 7200, .standard, 3600⟩,
    ⟨1990, 2006, 10, .onOrAfter 0 1, 7200, .standard, 3600⟩,
    ⟨1990, 2007, 3, .onOrAfter 0 15, 7200, .standard, 0⟩,
    ⟨2007, 9999, 9, .last 0, 7200, .standard, 3600⟩,
    ⟨2008, 9999, 4, .onOrAfter 0 1, 7200, .standard, 0⟩]

def chatham : List SeasonRule :=
  [ ⟨1974, 1974, 11, .onOrAfter 0 1, 9900, .standard, 3600⟩,
    ⟨1975, 1975, 2, .last 0, 9900, .standard, 0⟩,
    ⟨1975, 1988, 10, .last 0, 9900, .standard, 3600⟩,
    ⟨1976, 1989, 3, .onOrAfter 0 1, 9900, .standard, 0⟩,
    ⟨1989, 1989, 10, .onOrAfter 0 8, 9900, .standard, 3600⟩,
    ⟨1990, 2006, 10, .onOrAfter 0 1, 9900, .standard, 3600⟩,
    ⟨1990, 2007, 3, .onOrAfter 0 15, 9900, .standard, 0⟩,
    ⟨2007, 9999, 9, .last 0, 9900, .standard, 3600⟩,
    ⟨2008, 9999, 4, .onOrAfter 0 1, 9900, .standard, 0⟩]

def cookIslands : List SeasonRule :=
  [ ⟨1978, 1978, 11, .on 12, 0, .wall, 1800⟩,
    ⟨1979, 1991, 3, .onOrAfter 0 1, 0, .wall, 0⟩,
    ⟨1979, 1990, 10, .last 0, 0, .wall, 1800⟩]

def samoa : List SeasonRule :=
  [ ⟨2010, 2010, 9, .last 0, 0, .wall, 3600⟩,
    ⟨2011, 2011, 4, .onOrAfter 6 1, 14400, .wall, 0⟩,
    ⟨2011, 2011, 9, .last 6, 10800, .wall, 3600⟩,
    ⟨2012, 2021, 4, .onOrAfter 0 1, 14400, .wall, 0⟩,
    ⟨2012, 2020, 9, .last 0, 10800, .wall, 3600⟩]

def tonga : List SeasonRule :=
  [ ⟨1999, 1999, 10, .on 7, 7200, .standard, 3600⟩,
    ⟨2000, 2000, 3, .on 19, 7200, .standard, 0⟩,
    ⟨2000, 2001, 11, .onOrAfter 0 1, 7200, .wall, 3600⟩,
    ⟨2001, 2002, 1, .last 0, 7200, .wall, 0⟩,
    ⟨2016, 2016, 11, .onOrAfter 0 1, 7200, .wall, 3600⟩,
    ⟨2017, 2017, 1, .onOrAfter 0 15, 10800, .wall, 0⟩]

def vanuatu : List SeasonRule :=
  [ ⟨1973, 1973, 12, .on 22, 43200, .universal, 3600⟩,
    ⟨1974, 1974, 3, .on 30, 43200, .universal, 0⟩,
    ⟨1983, 1991, 9, .onOrAfter 6 22, 86400, .wall, 3600⟩,
    ⟨1984, 1991, 3, .onOrAfter 6 22, 86400, .wall, 0⟩,
    ⟨1992, 1993, 1, .onOrAfter 6 22, 86400, .wall, 0⟩,
    ⟨1992, 1992, 10, .onOrAfter 6 22, 86400, .wall, 3600⟩]

end Analytics.Zone.Season
